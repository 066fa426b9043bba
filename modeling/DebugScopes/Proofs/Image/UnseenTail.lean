import DebugScopes.Proofs.Abbreviation.Reading
import DebugScopes.Proofs.Decoding.Agreement
import DebugScopes.Proofs.Decoding.WellFormed
import DebugScopes.Proofs.Session.Building

/-!
# Data behind the usable length

The data of an image may go on behind its usable length. What stands there has no bearing on
anything: every read of the decoder is bounded by the length, be it a number, a long number, a text
or a scan for zeros, and so two images that differ in that tail alone cannot be told apart.

* `Segment.SameFront`: two segments hold the same bytes up to their usable length;
* `Segment.SameFront.byte`, `.number`, `.textAt`: their reads are the same;
* `interchangeable_of_sameFront`: sources over them are decoded alike;
* `build_eq_of_sameFront`: a session builds the same tree of two images of which the like holds, or
  fails alike.
-/

namespace DebugScopes

open Abbreviation

/-! ### Segments with the same front -/

namespace Segment

/-- Two segments hold the same bytes up to their usable length. -/
structure SameFront (s s' : Segment) : Prop where
  length : s'.length = s.length
  order : s'.order = s.order
  front : ∀ i : Nat, (i : Int) < s.length → s'.data[i]? = s.data[i]?

namespace SameFront

variable {s s' : Segment} (same : s.SameFront s')

include same

/-! ### Reads -/

theorem take (count : Int) : s'.take count = s.take count := by
  funext pos
  simp only [Segment.take, same.length]

theorem skip (count : Int) : s'.skip count = s.skip count := by
  simp only [Segment.skip, same.take]

theorem byte : s'.byte = s.byte := by
  funext pos
  simp only [Segment.byte, same.take]
  cases ran : within Step.taken (s.take 1) pos with
  | error e after => rw [bind_of_error ran, bind_of_error ran]
  | ok start after =>
    obtain ⟨rfl, -, positive, -, short⟩ := take_ok (within_ok ran)
    rw [bind_of_ok ran, bind_of_ok ran, same.front start.toNat (by omega)]

/-- A stretch inside the usable length is the same in both. -/
theorem extract {start stop : Nat} (short : (stop : Int) ≤ s.length) :
    (s'.data.extract start stop).toList = (s.data.extract start stop).toList := by
  ext1 i
  have inside (data : Array UInt8) :
      (data.extract start stop)[i]? = if i < stop - start then data[start + i]? else none := by
    rw [Array.getElem?_extract]
    grind
  rw [Array.getElem?_toList, Array.getElem?_toList, inside, inside]
  split
  · exact same.front (start + i) (by omega)
  · rfl

theorem number (count : Nat) : s'.number count = s.number count := by
  funext pos
  simp only [Segment.number, same.take, same.order]
  cases ran : within Step.taken (s.take count) pos with
  | error e after => rw [bind_of_error ran, bind_of_error ran]
  | ok start after =>
    obtain ⟨rfl, -, positive, -, short⟩ := take_ok (within_ok ran)
    rw [bind_of_ok ran, bind_of_ok ran, same.extract (by omega)]

theorem sized (size : Int) : s'.sized size = s.sized size := by
  simp only [Segment.sized, Segment.half, Segment.word, same.byte, same.number]

theorem sizedBy (size : Value) : s'.sizedBy size = s.sizedBy size := by
  unfold Segment.sizedBy
  cases width? size with
  | some width => exact same.sized width
  | none => rfl

theorem faultAt (x : Float) (count : Int) : s'.faultAt x count = s.faultAt x count := by
  unfold Segment.faultAt endsBefore
  rw [same.length]

theorem skipBy (count : Value) : s'.skipBy count = s.skipBy count := by
  unfold Segment.skipBy skipFault endsBefore
  cases count.int? with
  | some i => exact same.skip i
  | none => rw [same.length]

/-- The search for the end of a text stops at the usable length. -/
theorem textAt (addr : Int) : s'.textAt addr = s.textAt addr := by
  unfold Segment.textAt
  rw [same.length]
  split
  · rfl
  · next inside => rw [same.extract (by omega)]

/-! ### The abbreviation table -/

theorem skipBody (afterZero : Bool) : Index.skipBody s' afterZero = Index.skipBody s afterZero := by
  funext pos
  fun_induction Index.skipBody s afterZero pos with
  | case1 afterZero pos e after failed => rw [Index.skipBody_eq, same.byte, failed]
  | case2 afterZero pos b after read closed =>
    rw [Index.skipBody_eq, same.byte, read]
    simp only [if_pos closed]
  | case3 afterZero pos b after read goesOn ih =>
    rw [Index.skipBody_eq, same.byte, read]
    simp only [if_neg goesOn, ih]

theorem scanOne : Index.scanOne s' = Index.scanOne s := by
  simp only [Index.scanOne, same.byte, same.skipBody]

theorem scanFrom : Index.scanFrom s' = Index.scanFrom s := by
  funext pos
  fun_induction Index.scanFrom s pos with
  | case1 pos e after failed => rw [Index.scanFrom_eq, same.scanOne, failed]
  | case2 pos after read =>
    rw [Index.scanFrom_eq, same.scanOne, read]
    rfl
  | case3 pos code between read more e after failed ih =>
    rw [Index.scanFrom_eq, same.scanOne, read]
    simp only [if_neg more, ih, failed]
  | case4 pos code between read more rest after others ih =>
    rw [Index.scanFrom_eq, same.scanOne, read]
    simp only [if_neg more, ih, others]

theorem scan (start : Int) : Index.scan s' start = Index.scan s start := by
  simp only [Index.scan, same.scanFrom]

end SameFront

end Segment

/-! ### Everything that is decoded -/

/-- Sources with the same items over segments with the same front are decoded alike. -/
theorem interchangeable_of_sameFront {src src' : Source} (same : src.segment.SameFront src'.segment)
    (items : src'.items = src.items) (infoStart : src'.infoStart = src.infoStart)
    (abbrevStart : src'.abbrevStart = src.abbrevStart)
    (wholeLength : src'.wholeLength = src.wholeLength) : Interchangeable Eq src src' := by
  have lasting : Lasting (Eq : Failure → Failure → Prop) :=
    ⟨fun _ => rfl, fun _ equal => equal ▸ rfl⟩
  have alike {σ α : Type} {action action' : EStateM Failure σ α} (equal : action' = action) :
      Agree Eq action action' := equal ▸ .refl lasting action
  refine ⟨infoStart, abbrevStart, alike same.byte, fun count => alike (same.number count),
    fun count => alike (same.skip count), fun addr => ?_, ?_,
    alike (Declaration.read_congr same.byte), ?_, ?_, fun slot => ?_⟩
  · have text : src'.textAt addr = src.textAt addr := by
      simp only [Source.textAt, same.length, same.textAt, wholeLength]
    rw [text]
    exact .refl lasting _
  · rw [same.scan]
    cases Index.scan src.segment src.abbrevStart with
    | ok index => exact .inl ⟨index, rfl, rfl⟩
    | error e => exact .inr ⟨e, e, rfl, rfl, rfl⟩
  · rw [items]
  · rw [items]
  · rw [items]
    cases src.items.inSlot slot with
    | error damage => exact .inl ⟨damage, rfl, rfl⟩
    | ok there =>
      refine .inr ⟨there, there, rfl, rfl, rfl, ?_, alike (same.sizedBy _), alike (same.skipBy _)⟩
      simp only [Source.oddAddress, same.faultAt]

/-- Two images differ at most in the data behind their usable length. -/
structure Image.SameFront (image image' : Image) : Prop where
  length : image'.length = image.length
  symbols : image'.symbols = image.symbols
  infoStart : image'.infoStart = image.infoStart
  abbrevStart : image'.abbrevStart = image.abbrevStart
  front : ∀ i : Nat, (i : Int) < image.length → image'.data[i]? = image.data[i]?

variable {image image' : Image}

/-- They have the same tree, or fail for the same reason, and the same notes are taken. -/
theorem Image.SameFront.decoder_eq (same : image.SameFront image') :
    image'.decoder = image.decoder := by
  funext order entryPoint
  have segments : (image.segment order).SameFront (image'.segment order) :=
    ⟨same.length, rfl, same.front⟩
  have interchangeable : Interchangeable Eq (.of image order) (.of image' order) :=
    interchangeable_of_sameFront segments (by simp only [Source.of, same.symbols]) same.infoStart
      same.abbrevStart rfl
  obtain ⟨results, notices⟩ := interchangeable.decode ⟨fun _ => rfl, fun _ equal => equal ▸ rfl⟩
    entryPoint
  refine Prod.ext ?_ notices
  rcases results with ⟨t, built, built'⟩ | ⟨e, e', failed, failed', rfl⟩
  · exact built'.trans built.symm
  · exact failed'.trans failed.symm

/-- Whatever the settings are, a session builds the same tree of two images that differ at most in
the data behind their usable length, with the same messages and files, or the build fails with the
same failure, told in the same words. -/
theorem build_eq_of_sameFront (same : image.SameFront image') (s : Session) :
    Session.build image'.decoder s = Session.build image.decoder s := by
  rw [same.decoder_eq]

/-- An image with one unit, which holds the method `main`, and with data that are not usable. -/
def tailedImage (tail : Array UInt8) : Image :=
  .ofParts (methodImage.data ++ tail) methodImage.symbols methodImage.infoStart
    methodImage.abbrevStart (some methodImage.data.size)

theorem tailedImage_sameFront (tail tail' : Array UInt8) :
    (tailedImage tail).SameFront (tailedImage tail') := by
  have length (tail : Array UInt8) : (tailedImage tail).length = methodImage.data.size := by
    show min (methodImage.data.size : Int) ((methodImage.data ++ tail).size : Nat) = _
    rw [Array.size_append]
    omega
  refine ⟨by rw [length, length], rfl, rfl, rfl, fun i inside => ?_⟩
  rw [length] at inside
  have inside : i < methodImage.data.size := by omega
  exact (Array.getElem?_append_left inside).trans (Array.getElem?_append_left inside).symm

/-- The same tree of two entries is built, whether the method is followed by zeros or not. -/
theorem build_eq_of_sameFront_method :
    (tailedImage #[0, 0]).SameFront (tailedImage #[7]) ∧
      (∃ t s', Session.build (tailedImage #[0, 0]).decoder (.blank true .empty) = .ok t s' ∧
        t.size = 2) ∧
      Session.build (tailedImage #[7]).decoder (.blank true .empty) =
        Session.build (tailedImage #[0, 0]).decoder (.blank true .empty) := by
  have size : (match Session.build (tailedImage #[0, 0]).decoder (.blank true .empty) with
    | .ok t _ => t.size
    | .error _ _ => 0) = 2 := by decide +kernel
  refine ⟨tailedImage_sameFront _ _, ?_, build_eq_of_sameFront (tailedImage_sameFront _ _) _⟩
  cases built : Session.build (tailedImage #[0, 0]).decoder (.blank true .empty) with
  | error fault s' =>
    rw [built] at size
    cases size
  | ok t s' =>
    rw [built] at size
    exact ⟨t, s', rfl, size⟩

end DebugScopes
