import Mathlib.Data.List.Chain
import RecordStore.Text.Basic

/-!
# The code points of a text

A text is its code points. A text is joined when no high half of a surrogate pair stands right before a low one; joining makes
one character of such halves.
-/

namespace RecordStore

namespace Text

theorem filterMap_char? (cs : List Char) : (cs.map CodePoint.char).filterMap CodePoint.char? = cs := by
  rw [List.filterMap_map]
  exact List.filterMap_some

theorem any_isHalf_chars (cs : List Char) : (cs.map CodePoint.char).any CodePoint.isHalf = false := by
  rw [List.any_map]
  exact List.any_eq_false.2 fun _ _ => Bool.false_ne_true

theorem ofPoints_chars (cs : List Char) : ofPoints (cs.map .char) = whole (String.ofList cs) := by
  rw [ofPoints, dif_neg (by rw [any_isHalf_chars]; exact Bool.false_ne_true), filterMap_char?]

theorem ofPoints_points (t : Text) : ofPoints t.points = t := by
  cases t with
  | whole s => rw [points, ofPoints_chars, String.ofList_toList]
  | torn t => exact dif_pos t.isTorn

theorem chars_of_whole {points : List CodePoint} (whole : points.any CodePoint.isHalf = false) :
    (points.filterMap CodePoint.char?).map .char = points := by
  induction points with
  | nil => rfl
  | cons p rest ih =>
    rw [List.any_cons, Bool.or_eq_false_iff] at whole
    cases p with
    | char c => exact congrArg (CodePoint.char c :: ·) (ih whole.2)
    | half s => cases whole.1

theorem points_ofPoints (ps : List CodePoint) : (ofPoints ps).points = ps := by
  unfold ofPoints
  split
  · rfl
  · rename_i whole
    rw [points, String.toList_ofList, chars_of_whole (Bool.eq_false_iff.2 whole)]

theorem isEmpty_iff {t : Text} : t.isEmpty = true ↔ t = "" := by
  cases t with
  | whole s => exact String.isEmpty_iff.trans (Text.whole.injEq ..).to_iff.symm
  | torn t => exact iff_of_false Bool.false_ne_true nofun

theorem isEmpty_letters (t : Text) : t.isEmpty = t.letters.isEmpty := by
  cases t with
  | whole s =>
    rw [letters, List.isEmpty_map, Bool.eq_iff_iff, List.isEmpty_iff, String.toList_eq_nil_iff]
    exact String.isEmpty_iff
  | torn t =>
    obtain ⟨p, member, _⟩ := List.any_eq_true.1 t.isTorn
    rw [letters, List.isEmpty_map, List.isEmpty_eq_false_iff.2 (List.ne_nil_of_mem member)]
    rfl

end Text

namespace CodePoint

/-- Code points of which none is a high half right before a low one. -/
def Joined (ps : List CodePoint) : Prop := ps.IsChain fun p q => p.pair? q = none

/-- The same code points with halves that stand behind each other joined. -/
def joined (ps : List CodePoint) : List CodePoint := (ps.foldl push []).reverse

theorem pair?_char (p : CodePoint) (c : Char) : p.pair? (char c) = none := by cases p <;> rfl

theorem char_pair? (c : Char) (p : CodePoint) : (char c).pair? p = none := rfl

theorem push_apart {p q : CodePoint} {rest : List CodePoint} (apart : q.pair? p = none) :
    push (q :: rest) p = p :: q :: rest := by
  rw [push, apart]

/-- Joined code points, read from the end, stay joined when one more is added. -/
theorem joined_push {before : List CodePoint} (done : before.IsChain fun q p => p.pair? q = none) (p : CodePoint) :
    (push before p).IsChain fun q p => p.pair? q = none := by
  cases before with
  | nil => exact List.isChain_singleton p
  | cons q rest =>
    cases paired : q.pair? p with
    | none =>
      rw [push_apart paired]
      exact List.isChain_cons_cons.2 ⟨paired, done⟩
    | some c =>
      rw [push, paired]
      exact List.isChain_cons.2 ⟨fun r _ => pair?_char r c, (List.isChain_cons.1 done).2⟩

theorem joined_joined (ps : List CodePoint) : Joined (joined ps) := by
  have kept : ∀ before : List CodePoint, (before.IsChain fun q p => p.pair? q = none) →
      (ps.foldl push before).IsChain fun q p => p.pair? q = none := by
    induction ps with
    | nil => exact fun _ done => done
    | cons p rest ih => exact fun before done => ih _ (joined_push done p)
  exact List.isChain_reverse.2 (kept [] .nil)

theorem foldl_push_of_joined {ps : List CodePoint} (joined : Joined ps) (before : List CodePoint)
    (apart : ∀ q ∈ before.head?, ∀ p ∈ ps.head?, q.pair? p = none) : ps.foldl push before = ps.reverse ++ before := by
  induction ps generalizing before with
  | nil => rfl
  | cons p rest ih =>
    obtain ⟨next, others⟩ := List.isChain_cons.1 joined
    have added : push before p = p :: before := by
      cases before with
      | nil => rfl
      | cons q more => exact push_apart (apart q rfl p rfl)
    have after : ∀ q ∈ (p :: before).head?, ∀ r ∈ rest.head?, q.pair? r = none := by
      rintro q ⟨⟩ r first
      exact next r first
    rw [List.foldl_cons, added, ih others _ after, List.reverse_cons, List.append_assoc]
    rfl

theorem joined_eq_iff (ps : List CodePoint) : joined ps = ps ↔ Joined ps := by
  constructor
  · intro same
    rw [← same]
    exact joined_joined ps
  · intro apart
    rw [joined, foldl_push_of_joined apart [] nofun, List.append_nil, List.reverse_reverse]

theorem joined_chars (cs : List Char) : Joined (cs.map char) := by
  induction cs with
  | nil => exact .nil
  | cons c rest ih => exact List.isChain_cons.2 ⟨fun p _ => char_pair? c p, ih⟩

end CodePoint

namespace Text

/-- The text with halves that stand behind each other joined. -/
def joined : Text → Text
  | whole s => whole s
  | torn t => ofPoints (CodePoint.joined t.points)

def isJoined : Text → Bool
  | whole _ => true
  | torn t => CodePoint.joined t.points == t.points

theorem joined_eq (t : Text) : t.joined = ofPoints (CodePoint.joined t.points) := by
  cases t with
  | whole s => rw [joined, points, (CodePoint.joined_eq_iff _).2 (CodePoint.joined_chars _), ofPoints_chars, String.ofList_toList]
  | torn t => rfl

theorem joined_eq_self_iff (t : Text) : t.joined = t ↔ CodePoint.Joined t.points := by
  rw [← CodePoint.joined_eq_iff, joined_eq]
  constructor
  · intro same
    rw [← points_ofPoints (CodePoint.joined t.points), same]
  · intro same
    rw [same, ofPoints_points]

theorem isJoined_iff (t : Text) : t.isJoined = true ↔ t.joined = t := by
  cases t with
  | whole s => exact iff_of_true rfl rfl
  | torn t => rw [joined_eq_self_iff, ← CodePoint.joined_eq_iff, isJoined, beq_iff_eq, points]

theorem isJoined_joined (t : Text) : t.joined.isJoined = true := by
  rw [isJoined_iff, joined_eq_self_iff, joined_eq, points_ofPoints]
  exact CodePoint.joined_joined _

end Text
end RecordStore
