import DebugScopes.Decode.Snapshot
import DebugScopes.Proofs.MapFile.RoundTrip
import DebugScopes.Proofs.MapFile.Truncated
import DebugScopes.Session.Build

/-!
# Images, saved and loaded

An image that has been saved is loaded as it was, and decoded like it. The one thing that stands in
the way is an integer with more digits than can be written: it stops the writing, and what has been
written by then holds no image.

* `Image.integers`: the integers that are written for an image;
* `Snapshot.itemsOf_rows`: the items are taken in as they stand;
* `Snapshot.ofEntries_entries`: the map of an image is that image;
* `Snapshot.load_draft_image`: what is loaded of an image that has been saved.
-/

namespace DebugScopes

/-- The integers that are written for an image. -/
def Image.integers (image : Image) : List Int :=
  image.length :: (image.symbols.toList.flatMap fun d => [d.addr, d.size]) ++
    [image.infoStart, image.abbrevStart]

namespace Snapshot

open MapFile

variable {image : Image} {file : String}

/-! ### What is written -/

/-- A descriptor as it is written. -/
def row (d : Descriptor) : Value := .list [.int d.addr, .int d.size]

theorem entries_ofImage (image : Image) :
    (ofImage image).entries = [
      (.text dataKey, .bytes image.data.toList),
      (.text lengthKey, .int image.length),
      (.text symbolsKey, .list (image.symbols.toList.map row)),
      (.text infoStartKey, .int image.infoStart),
      (.text abbrevStartKey, .int image.abbrevStart),
      (.text schemaKey, .int schema)] := by
  have items : (ofImage image).items.toList.map (fun item => .list [item.addr, item.size]) =
      image.symbols.toList.map row := by
    simp only [ofImage, Array.toList_map, List.map_map]
    rfl
  rw [entries, items]
  rfl

theorem texts_entries (image : Image) : ∀ row ∈ (ofImage image).entries, row.1.isText := by
  rw [entries_ofImage]
  simp [Value.isText]

/-- What decides whether descriptors can be written and read back. -/
theorem rows_plain (ds : List Descriptor) :
    Value.allPlain (ds.map row) ∧ Value.allSound (ds.map row) ∧
      Value.nestingOfItems (ds.map row) ≤ 1 ∧ Value.keptItems (ds.map row) = ds.map row := by
  induction ds with
  | nil => exact ⟨rfl, rfl, Nat.zero_le 1, rfl⟩
  | cons d ds ih =>
    obtain ⟨plain, sound, flat, kept⟩ := ih
    refine ⟨?_, ?_, ?_, ?_⟩
    · simpa [Value.allPlain, row, Value.isPlain] using plain
    · simpa [Value.allSound, row, Value.sound] using sound
    · simpa [Value.nestingOfItems, row, Value.nesting] using flat
    · simpa [Value.keptItems, row, Value.kept] using kept

theorem allLegible_rows (ds : List Descriptor) : Value.allLegible (ds.map row) =
    (ds.flatMap fun d => [d.addr, d.size]).all Numeral.isLegible := by
  induction ds with
  | nil => rfl
  | cons d ds ih =>
    simp [Value.allLegible, row, Value.legible, ih, Bool.and_assoc]

theorem plain_entries (image : Image) : Value.entriesPlain (ofImage image).entries := by
  rw [entries_ofImage]
  simp [Value.entriesPlain, Value.isPlainKey, Value.isPlain, (rows_plain _).1]

theorem legible_entries (image : Image) :
    Value.entriesLegible (ofImage image).entries = image.integers.all Numeral.isLegible := by
  have version : Numeral.isLegible schema = true := by decide
  rw [entries_ofImage]
  simp [Value.entriesLegible, Value.legible, allLegible_rows, Image.integers, version]

theorem nesting_entries (image : Image) :
    Value.nestingOfEntries (ofImage image).entries < Reader.deepest := by
  have flat := (rows_plain image.symbols.toList).2.2.1
  have deep : 2 < Reader.deepest := by decide
  rw [entries_ofImage]
  simp [Value.nestingOfEntries, Value.nesting]
  omega

theorem kept_entries (image : Image) :
    Value.keptEntries (ofImage image).entries = (ofImage image).entries := by
  rw [entries_ofImage]
  simp [Value.keptEntries, Value.kept, (rows_plain _).2.2.2]

theorem keysDiffer_entries (image : Image) : Value.keysDiffer (ofImage image).entries := by
  have same : Value.keysDiffer (ofImage image).entries =
      Value.keysDiffer ([dataKey, lengthKey, symbolsKey, infoStartKey, abbrevStartKey,
        schemaKey].map fun key => (.text key, .null)) :=
    Value.keysDiffer_congr rfl
  exact same.trans (by decide)

theorem sound_entries (image : Image) : Value.entriesSound (ofImage image).entries := by
  rw [entries_ofImage]
  simp [Value.entriesSound, Value.hashable, Value.sound, (rows_plain _).2.1]

theorem isRow_entries (image : Image) : ∀ row ∈ (ofImage image).entries, IsRow row.1 row.2 := by
  intro row among
  obtain ⟨-, keySound, sound⟩ := Value.sound_of_mem (sound_entries image) among
  exact isRow_of_text (texts_entries image row among) keySound sound

/-- Only an integer that is too long keeps an image from being saved. -/
theorem refused_draft_image (image : Image) :
    (draft image).refused = stopped (image.integers.all Numeral.isLegible) := by
  rw [← legible_entries]
  exact refused_draft (texts_entries image) (plain_entries image)

/-! ### What is loaded -/

theorem isAssignable_mapName : Reader.isAssignable mapName ∧ Normal.form mapName = mapName := by
  have form : Normal.form mapName = mapName := Normal.form_ascii (by decide)
  refine ⟨?_, form⟩
  rw [Reader.isAssignable, form]
  decide

/-- The map of an image is loaded as it was saved. -/
theorem load_entries (file : String) (legible : image.integers.all Numeral.isLegible) :
    MapFile.load file mapName [] (draft image).text = .ok ((ofImage image).entries, []) := by
  have whole : (draft image).refused = none := by
    rw [refused_draft_image, legible]
    rfl
  have fits : (ofImage image).entries.all rowFits :=
    (all_rowFits_iff (plain_entries image)).2 (nesting_entries image)
  have dictionary : Entries.ofList (ofImage image).entries = (ofImage image).entries :=
    Entries.ofList_of_keysDiffer (keysDiffer_entries image)
  have loaded : MapFile.load file mapName [] (draft image).text = _ :=
    load_rows (by decide) (by decide) (isRow_entries image) whole
  rw [if_pos ⟨isAssignable_mapName.1, fits⟩, isAssignable_mapName.2, kept_entries, dictionary,
    given, if_neg (by decide), if_pos rfl] at loaded
  rw [loaded, laid]
  exact congrArg (fun entries => Except.ok (entries, [])) dictionary

/-! ### The items -/

theorem isNext_of_above {ds : List Descriptor} {addr : Int} (above : ∀ d ∈ ds, d.addr < addr) :
    isNext (ds.map .ofDescriptor).toArray (.int addr) := by
  unfold isNext
  rw [List.back?_toArray, List.getLast?_map]
  cases last : ds.getLast? with
  | none => rfl
  | some d => exact decide_eq_true (above d (List.mem_of_getLast? last))

/-- Items that stand by increasing address are taken in as they stand. -/
theorem insert_rows {before ds : List Descriptor}
    (sorted : (before ++ ds).Pairwise (·.addr < ·.addr)) :
    (ds.map row).foldlM (fun items v => do insert items (← item v))
        (before.map .ofDescriptor).toArray =
      (.ok ((before ++ ds).map .ofDescriptor).toArray : Except Fault (Array Item)) := by
  induction ds generalizing before with
  | nil => rw [List.append_nil]; rfl
  | cons d ds ih =>
    have above : ∀ e ∈ before, e.addr < d.addr := fun e among =>
      (List.pairwise_append.1 sorted).2.2 e among d List.mem_cons_self
    have behind : isNext (before.map .ofDescriptor).toArray (Item.ofDescriptor d).addr :=
      isNext_of_above above
    have next : insert (before.map .ofDescriptor).toArray (.ofDescriptor d) =
        .ok ((before ++ [d]).map .ofDescriptor).toArray := by
      rw [insert, if_pos behind]
      simp
    rw [← List.singleton_append, ← List.append_assoc] at sorted ⊢
    have rest := ih sorted
    show (insert (before.map .ofDescriptor).toArray (.ofDescriptor d) >>= fun items =>
      (ds.map row).foldlM _ items) = _
    rw [next]
    exact rest

theorem itemsOf_rows (t : SymbolTable) :
    itemsOf (.list (t.toList.map row)) = .ok (t.rows.map .ofDescriptor) := by
  have rows : (t.toList.map Item.ofDescriptor).toArray = t.rows.map .ofDescriptor := by
    rw [SymbolTable.toList, ← Array.toList_map, Array.toArray_toList]
  rw [itemsOf]
  split
  · next empty =>
    have none : t.toList = [] := by simpa [Value.isTrue] using empty
    rw [← rows, none]
    rfl
  · have inserted := @insert_rows [] t.toList t.sorted
    exact inserted.trans (congrArg Except.ok rows)

/-! ### The image -/

/-- What stands under the keys of the map of an image. -/
theorem find?_entries (image : Image) :
    (ofImage image).entries.find? (.text schemaKey) = some (.int schema) ∧
    (ofImage image).entries.find? (.text dataKey) = some (.bytes image.data.toList) ∧
    (ofImage image).entries.find? (.text lengthKey) = some (.int image.length) ∧
    (ofImage image).entries.find? (.text symbolsKey) =
      some (.list (image.symbols.toList.map row)) ∧
    (ofImage image).entries.find? (.text infoStartKey) = some (.int image.infoStart) ∧
    (ofImage image).entries.find? (.text abbrevStartKey) = some (.int image.abbrevStart) := by
  rw [entries_ofImage]
  simp [Entries.find?, Value.same, schemaKey, dataKey, lengthKey, symbolsKey, infoStartKey,
    abbrevStartKey]

/-- The usable length of an image never has to be cut. -/
theorem usable_length (image : Image) :
    usable image.data.size (.int image.length) = .ok (.int image.length) := by
  have fits : compare (image.data.size : Int) image.length ≠ .lt := by
    rw [Ne, compare_lt_iff_lt]
    exact Int.not_lt.2 image.length_le
  unfold usable
  exact if_neg fun cut => fits (Option.some.inj cut)

/-- The map of an image is that image. -/
theorem ofEntries_entries (file : String) (image : Image) :
    ofEntries file (ofImage image).entries = .ok (ofImage image) := by
  obtain ⟨version, data, length, symbols, infoStart, abbrevStart⟩ := find?_entries image
  have known : checkSchema file (ofImage image).entries = .ok () := by
    rw [checkSchema, version]
    rfl
  rw [ofEntries, known, required, data, required, symbols, required, infoStart, required,
    abbrevStart, length]
  show (do
    let data ← bytes (.bytes image.data.toList)
    let length ← usable data.size (.int image.length)
    let items ← itemsOf (.list (image.symbols.toList.map row))
    pure (⟨data, length, items, .int image.infoStart, .int image.abbrevStart⟩ : Snapshot)) = _
  rw [itemsOf_rows]
  show (do
    let length ← usable image.data.size (.int image.length)
    pure (⟨image.data, length, _, .int image.infoStart, .int image.abbrevStart⟩ : Snapshot)) = _
  rw [usable_length]
  rfl

/-- An image with an integer that is too long cannot be saved, and none is loaded of what has been
written of it. -/
theorem load_draft_illegible (file : String)
    (illegible : image.integers.all Numeral.isLegible = false) :
    (draft image).refused = some .illegible ∧
      load file (draft image).text = (.error (.noImage file), [unread file]) := by
  have refused : (draft image).refused = some .illegible := by
    rw [refused_draft_image, illegible]
    rfl
  have stopped : (draft image).refused ≠ none := by
    rw [refused]
    exact nofun
  have loaded : MapFile.load file mapName [] (draft image).text = .ok ([], [unread file]) :=
    load_stopped file [] (by decide) (by decide) (isRow_entries image) stopped
  refine ⟨refused, ?_⟩
  rw [load_of_map loaded]
  rfl

theorem load_draft_legible (file : String) (legible : image.integers.all Numeral.isLegible) :
    load file (draft image).text = (.ok (ofImage image), []) := by
  rw [load_of_map (load_entries file legible)]
  exact congrArg (·, []) (ofEntries_entries file image)

/-- An image that has been saved is loaded as it was and without a message, makes the same file when
it is saved again, and is decoded like the image that was saved. But an integer that is too long
stops the writing, and then no image is loaded. -/
theorem load_draft_image (image : Image) (file : String) :
    if image.integers.all Numeral.isLegible then
      (draft image).refused = none ∧
        ∃ s, load file (draft image).text = (.ok s, []) ∧ s.data = image.data ∧
          s.length = .int image.length ∧ s.items = image.symbols.rows.map .ofDescriptor ∧
          s.infoStart = .int image.infoStart ∧ s.abbrevStart = .int image.abbrevStart ∧
          MapFile.draft mapName s.entries = draft image ∧
          ∀ session, Session.build s.decoder session = Session.build image.decoder session
    else
      (draft image).refused = some .illegible ∧
        load file (draft image).text = (.error (.noImage file), [unread file]) := by
  cases legible : image.integers.all Numeral.isLegible with
  | true =>
    have whole : (draft image).refused = none := by
      rw [refused_draft_image, legible]
      rfl
    rw [if_pos rfl]
    exact ⟨whole, ofImage image, load_draft_legible file legible, rfl, rfl, rfl, rfl, rfl, rfl,
      fun session => by rw [decoder_ofImage]⟩
  | false =>
    rw [if_neg Bool.false_ne_true]
    exact load_draft_illegible file legible

/-- An image with one item, of a width that has one digit more than can be written. -/
def vastImage : Image := .ofParts #[] (.ofList [⟨0, 10 ^ Numeral.longestDecimal⟩]) 0 0 none

/-- The image cannot be saved, and is not loaded. -/
theorem vastImage_not_loaded :
    (draft vastImage).refused = some .illegible ∧
      load "img" (draft vastImage).text = (.error (.noImage "img"), [unread "img"]) :=
  load_draft_illegible "img" (by decide +kernel)

end Snapshot

end DebugScopes
