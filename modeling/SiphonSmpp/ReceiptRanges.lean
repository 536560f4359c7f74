/-
This file says that the receipt parser slices safely. Its guard against
overlapping keys only asks whether a new key starts inside an earlier one. That
no range is reversed rests on the key table: two occurrences of keys lie apart,
whichever is found first. The offsets come from the lower-cased copy, and they
are boundaries of the body because lower-casing changes no width.
-/

import SiphonSmpp.ReceiptText

namespace SiphonSmpp

open Utf8

namespace Receipt

/-! ### What the parser slices -/

/-- The recorded keys in the order of their positions. -/
def sortedHits (raw : List Char) : List Hit :=
  (hits (raw.map Char.toLower)).insertionSort fun first second => first.pos ≤ second.pos

/-- The start and the end of each value. -/
def ranges (raw : List Char) : List Hit → List (Nat × Nat)
  | [] => []
  | hit :: rest =>
    (hit.pos + hit.keyLen, (rest.head?.map Hit.pos).getD (byteLength raw)) :: ranges raw rest

/-- Two keys do not touch each other's octets. -/
def Hit.Disjoint (first second : Hit) : Prop :=
  first.pos + first.keyLen ≤ second.pos ∨ second.pos + second.keyLen ≤ first.pos

/-- `str::is_char_boundary`. -/
def isCharBoundary (raw : List Char) (offset : Nat) : Bool := (splitAtByte raw offset).isSome

/-- A range that slices without a panic. -/
structure Sliceable (raw : List Char) (range : Nat × Nat) : Prop where
  ordered : range.1 ≤ range.2
  inside : range.2 ≤ byteLength raw
  startBoundary : isCharBoundary raw range.1 = true
  endBoundary : isCharBoundary raw range.2 = true

/-- The fields hold the trimmed slices, each that of its own key. -/
def Sliced (raw : List Char) (receipt : Receipt) (hit : Hit) (range : Nat × Nat) : Prop :=
  ∃ piece, slice raw range.1 range.2 = .ok piece ∧ receipt.get hit.field = some (trim piece)

/-- What `fill` returns was sliced out of the body, range by range. -/
theorem fill_sliced (raw : List Char) (hits : List Hit) (out receipt : Receipt)
    (distinct : (hits.map Hit.field).Nodup) (filled : fill raw hits out = .ok receipt) :
    List.Forall₂ (Sliced raw receipt) hits (ranges raw hits) ∧
      ∀ field, field ∉ hits.map Hit.field → receipt.get field = out.get field := by
  induction hits generalizing out with
  | nil =>
    cases filled
    exact ⟨List.Forall₂.nil, fun _ _ => rfl⟩
  | cons hit rest inductionHypothesis =>
    rw [List.map_cons, List.nodup_cons] at distinct
    rw [fill, bind_eq_ok_iff] at filled
    obtain ⟨piece, cut, filledRest⟩ := filled
    obtain ⟨slicedRest, others⟩ := inductionHypothesis _ distinct.2 filledRest
    refine ⟨List.Forall₂.cons ⟨piece, cut, ?_⟩ slicedRest, fun field absent => ?_⟩
    · rw [others hit.field distinct.1, get_set_self]
    · rw [List.map_cons, List.mem_cons, not_or] at absent
      rw [others field absent.2, get_set_of_ne _ _ _ _ absent.1]

/-! ### Offsets of marks -/

section Offsets

variable {raw : List Char} {first second mark : Mark}

theorem Mark.Placed.hit_end (placed : mark.Placed raw) :
    (mark.hit raw).pos + (mark.hit raw).keyLen = byteLength (raw.take (mark.start + mark.size)) :=
  placed.octets

theorem Mark.Placed.hit_le (placed : first.Placed raw) (placedSecond : second.Placed raw)
    (before : first.start + first.size ≤ second.start) :
    (first.hit raw).pos + (first.hit raw).keyLen ≤ (second.hit raw).pos := by
  have inside := placedSecond.inside
  rw [placed.hit_end]
  exact (byteLength_take_le_iff raw _ second.start placed.inside (by omega)).mpr before

theorem isCharBoundary_take (raw : List Char) (size : Nat) :
    isCharBoundary raw (byteLength (raw.take size)) = true := by
  have split := splitAtByte_append (raw.take size) (raw.drop size)
  rw [List.take_append_drop] at split
  rw [isCharBoundary, split]
  rfl

/-- Every range the marks of a body give lies between two of its characters. -/
theorem ranges_hit (raw : List Char) (marks : List Mark)
    (ordered : marks.Pairwise fun first second => first.start + first.size ≤ second.start)
    (placed : ∀ mark ∈ marks, mark.Placed raw) :
    ∀ range ∈ ranges raw (marks.map (Mark.hit raw)), ∃ first last, first ≤ last ∧
      last ≤ raw.length ∧ range = (byteLength (raw.take first), byteLength (raw.take last)) := by
  induction marks with
  | nil => exact nofun
  | cons mark rest inductionHypothesis =>
    obtain ⟨before, orderedRest⟩ := List.pairwise_cons.mp ordered
    rw [List.forall_mem_cons] at placed
    rw [List.map_cons, ranges, List.forall_mem_cons, placed.1.hit_end]
    refine ⟨?_, inductionHypothesis orderedRest placed.2⟩
    cases rest with
    | nil =>
      refine ⟨_, raw.length, placed.1.inside, le_rfl, ?_⟩
      rw [List.take_length]
      rfl
    | cons next more =>
      have inside := (placed.2 next List.mem_cons_self).inside
      exact ⟨_, next.start, before next List.mem_cons_self, by omega, rfl⟩

theorem ranges_start_ge (raw : List Char) (hits : List Hit) (bound : Nat)
    (behind : ∀ hit ∈ hits, bound ≤ hit.pos) : ∀ range ∈ ranges raw hits, bound ≤ range.1 := by
  induction hits with
  | nil => exact nofun
  | cons hit rest inductionHypothesis =>
    rw [List.forall_mem_cons] at behind
    rw [ranges, List.forall_mem_cons]
    exact ⟨behind.1.trans (Nat.le_add_right _ _), inductionHypothesis behind.2⟩

/-- A value ends before the next one starts. -/
theorem ranges_ordered (raw : List Char) (hits : List Hit)
    (sorted : hits.Pairwise fun first second => first.pos ≤ second.pos) :
    (ranges raw hits).Pairwise fun first second => first.2 ≤ second.1 := by
  induction hits with
  | nil => exact List.Pairwise.nil
  | cons hit rest inductionHypothesis =>
    obtain ⟨_, sortedRest⟩ := List.pairwise_cons.mp sorted
    rw [ranges, List.pairwise_cons]
    refine ⟨?_, inductionHypothesis sortedRest⟩
    cases rest with
    | nil => exact nofun
    | cons next more =>
      refine ranges_start_ge raw (next :: more) next.pos ?_
      rw [List.forall_mem_cons]
      exact ⟨le_rfl, (List.pairwise_cons.mp sortedRest).1⟩

end Offsets

/-! ### No panic -/

theorem sortedHits_eq (raw : List Char) :
    sortedHits raw = (sortedMarks raw).map (Mark.hit raw) := by
  rw [sortedHits, hits_eq, sortedMarks_hit]

theorem sortedMarks_placed (raw : List Char) : ∀ mark ∈ sortedMarks raw, mark.Placed raw :=
  fun _ member => marks_placed (mem_sortedMarks_iff.mp member)

/-- The keys stand one after the other. -/
theorem sortedHits_ordered (raw : List Char) :
    (sortedHits raw).Pairwise fun first second => first.pos + first.keyLen ≤ second.pos := by
  rw [sortedHits_eq, List.pairwise_map]
  exact (sortedMarks_ordered raw).imp_of_mem fun member memberOther before =>
    (sortedMarks_placed raw _ member).hit_le (sortedMarks_placed raw _ memberOther) before

/-- The recorded keys never overlap, whatever the order they were found in. -/
theorem hits_disjoint (raw : List Char) :
    (hits (raw.map Char.toLower)).Pairwise Hit.Disjoint := by
  refine (List.Perm.pairwise_iff Or.symm (List.perm_insertionSort
    (fun first second : Hit => first.pos ≤ second.pos) _)).mp ?_
  exact (sortedHits_ordered raw).imp Or.inl

theorem sortedHits_sliceable (raw : List Char) :
    ∀ range ∈ ranges raw (sortedHits raw), Sliceable raw range := by
  intro range member
  rw [sortedHits_eq] at member
  obtain ⟨first, last, ordered, inside, rfl⟩ := ranges_hit raw _ (sortedMarks_ordered raw)
    (sortedMarks_placed raw) range member
  have bound := byteLength_take_le_iff raw last raw.length inside le_rfl
  rw [List.take_length] at bound
  exact ⟨(byteLength_take_le_iff raw first last (ordered.trans inside) inside).mpr ordered,
    bound.mpr inside, isCharBoundary_take raw first, isCharBoundary_take raw last⟩

/-- Whatever octets arrive, the parser returns: the keys it records are disjoint, each range it
slices is in order, inside the body and cut at character boundaries, and the fields are the
trimmed slices, one after the other in the body. -/
theorem parse_safe (sm : List UInt8) :
    (hits ((fromUtf8Lossy sm).map Char.toLower)).Pairwise Hit.Disjoint ∧
    (∀ range ∈ ranges (fromUtf8Lossy sm) (sortedHits (fromUtf8Lossy sm)),
      Sliceable (fromUtf8Lossy sm) range) ∧
    (ranges (fromUtf8Lossy sm) (sortedHits (fromUtf8Lossy sm))).Pairwise
      (fun first second => first.2 ≤ second.1) ∧
    ∃ parsed, parse sm = .ok parsed ∧ ∀ receipt, parsed = some receipt →
      List.Forall₂ (Sliced (fromUtf8Lossy sm) receipt) (sortedHits (fromUtf8Lossy sm))
        (ranges (fromUtf8Lossy sm) (sortedHits (fromUtf8Lossy sm))) ∧
      ∀ field, field ∉ (sortedHits (fromUtf8Lossy sm)).map Hit.field →
        receipt.get field = none := by
  set raw := fromUtf8Lossy sm
  have sorted : (sortedHits raw).Pairwise fun first second => first.pos ≤ second.pos :=
    (sortedHits_ordered raw).imp fun before => (Nat.le_add_right _ _).trans before
  refine ⟨hits_disjoint raw, sortedHits_sliceable raw, ranges_ordered raw _ sorted, _,
    parse_eq sm, fun receipt parsed => ?_⟩
  have returned : fillMarks raw (sortedMarks raw) (empty raw) = receipt := by
    split at parsed
    · cases parsed
    · exact Option.some.inj parsed
  have filled : fill raw (sortedHits raw) (empty raw) = .ok receipt := by
    rw [sortedHits_eq, fill_eq raw _ _ (sortedMarks_ordered raw) (sortedMarks_placed raw), returned]
  have distinct : ((sortedHits raw).map Hit.field).Nodup := by
    rw [sortedHits_eq, List.map_map]
    exact sortedMarks_fields_nodup raw
  obtain ⟨sliced, others⟩ := fill_sliced raw _ _ _ distinct filled
  exact ⟨sliced, fun field absent => (others field absent).trans (get_empty raw field)⟩

end Receipt

end SiphonSmpp
