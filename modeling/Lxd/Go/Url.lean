import Mathlib.Data.List.Basic
import Lxd.Go.Strings

/-!
# Percent-decoding and dot-segment removal

* `pathUnescape`: Go's `url.PathUnescape`, which decodes `%XX` escapes, `%2F` and `%2E`
  included.
* `removeDotSegments`: `remove_dot_segments` of RFC 3986 §5.2.4, the reading of a path in which
  `.` and `..` segments are resolved.
* `pathUnescape_of_not_mem`: text with no `%` decodes to itself.
* `removeDotSegments_of_segments`: a path of plain segments (no `/` inside, none of them `.` or
  `..`) reads as itself.

A path is a byte string, one character `Char.ofNat b` per byte (`Lxd.Go.Strings`): `%XX`
decodes to the byte `0xXX`, which is that character, and an escape of a UTF-8 sequence decodes
to its bytes, one character each. The ASCII bytes (`/`, `.`, letters) are their own characters.
-/

namespace Lxd

namespace Go

/-- `ishex` and `unhex`: the value of a hexadecimal digit. -/
def unhex (c : Char) : Option Nat :=
  if '0' ≤ c ∧ c ≤ '9' then some (c.toNat - '0'.toNat)
  else if 'a' ≤ c ∧ c ≤ 'f' then some (c.toNat - 'a'.toNat + 10)
  else if 'A' ≤ c ∧ c ≤ 'F' then some (c.toNat - 'A'.toNat + 10)
  else none

/-- The text of `url.EscapeError` for the escape `s`. -/
def escapeError (s : List Char) : String := "invalid URL escape " ++ quote (String.mk s)

/-- `url.PathUnescape` (`unescape` in mode `encodePathSegment`): each `%XX` becomes the byte
`0xXX`; a `%` that two hex digits do not follow is an error naming at most three characters
from it. This mode leaves `+` alone. -/
def pathUnescape : List Char → Except String (List Char)
  | [] => .ok []
  | '%' :: a :: b :: rest => match unhex a, unhex b with
    | some x, some y => (pathUnescape rest).map (Char.ofNat (16 * x + y) :: ·)
    | _, _ => .error (escapeError ['%', a, b])
  | '%' :: rest => .error (escapeError ('%' :: rest))
  | c :: rest => (pathUnescape rest).map (c :: ·)

/-- Without a `%`, decoding changes nothing. -/
theorem pathUnescape_of_not_mem : ∀ {s : List Char}, '%' ∉ s → pathUnescape s = .ok s
  | [], _ => rfl
  | c :: rest, h => by
    have hc : c ≠ '%' := fun hc => h (hc ▸ List.mem_cons_self _ _)
    rw [pathUnescape.eq_4 _ _ (fun _ _ _ h' => absurd h' hc) hc,
      pathUnescape_of_not_mem fun hr => h (List.mem_cons_of_mem _ hr)]
    rfl

def upperhex (n : Nat) : Char := if n < 10 then Char.ofNat (48 + n) else Char.ofNat (55 + n)

/-- `shouldEscape(c, encodePath)`: all but letters, digits, `-_.~` and the reserved `$&+,/:;=@`. -/
def shouldEscapePath (c : Char) : Bool := !(c.isAlphanum || "-_.~$&+,/:;=@".toList.contains c)

/-- `escape(s, encodePath)`: each byte to escape becomes `%XX`, and a `%` becomes `%25`. -/
def escapePath (s : List Char) : List Char :=
  s.flatMap fun c =>
    if shouldEscapePath c then ['%', upperhex (c.toNat / 16), upperhex (c.toNat % 16)] else [c]

/-- Remove the last segment of the output buffer and the `/` before it, if any (rule C). -/
def dropLastSegment (out : List Char) : List Char :=
  ((out.reverse.dropWhile (· != '/')).drop 1).reverse

/-- One round of the loop of RFC 3986 §5.2.4, by the first segment of the input buffer (up to
the next `/`). With a leading `/`: a segment `.` is rule B (`/./` or `/.` becomes `/`), `..` is
rule C (the same, and the output loses its last segment), any other is rule E (the `/` and the
segment move to the output). Without one: `.` or `..` is rule A (`./`, `../`) or D (all of the
input), any other segment is rule E. -/
def dotStep (input out : List Char) : List Char × List Char :=
  match input with
  | '/' :: r =>
    let seg := r.takeWhile (· != '/')
    let rest := r.dropWhile (· != '/')
    if seg = ['.'] then ('/' :: rest.drop 1, out)
    else if seg = ['.', '.'] then ('/' :: rest.drop 1, dropLastSegment out)
    else (rest, out ++ '/' :: seg)
  | r =>
    let seg := r.takeWhile (· != '/')
    let rest := r.dropWhile (· != '/')
    if seg = ['.'] ∨ seg = ['.', '.'] then (rest.drop 1, out)
    else (rest, out ++ seg)

/-- The loop of RFC 3986 §5.2.4 while the input buffer is not empty. Each round shortens it. -/
def removeDotSegmentsLoop : Nat → List Char → List Char → List Char
  | 0, _, out => out
  | _ + 1, [], out => out
  | fuel + 1, c :: cs, out =>
    let next := dotStep (c :: cs) out
    removeDotSegmentsLoop fuel next.1 next.2

/-- `remove_dot_segments` (RFC 3986 §5.2.4). -/
def removeDotSegments (path : List Char) : List Char :=
  removeDotSegmentsLoop path.length path []

/-- A plain segment: no `/` inside, and neither `.` nor `..`. -/
def PlainSegment (seg : List Char) : Prop := '/' ∉ seg ∧ seg ≠ ['.'] ∧ seg ≠ ['.', '.']

instance (seg : List Char) : Decidable (PlainSegment seg) :=
  inferInstanceAs (Decidable (_ ∧ _ ∧ _))

theorem not_slash_of_segment {seg : List Char} (hs : '/' ∉ seg) :
    ∀ c ∈ seg, (c != '/') = true := by
  intro c hc; simpa using ne_of_mem_of_not_mem hc hs

/-- A plain segment after a `/` moves to the output (rule E). -/
theorem dotStep_plain {seg rest out : List Char} (hs : PlainSegment seg)
    (hr : rest = [] ∨ ∃ r, rest = '/' :: r) :
    dotStep ('/' :: (seg ++ rest)) out = (rest, out ++ '/' :: seg) := by
  have ht : rest.takeWhile (· != '/') = [] := by rcases hr with rfl | ⟨r, rfl⟩ <;> simp
  have hd : rest.dropWhile (· != '/') = rest := by rcases hr with rfl | ⟨r, rfl⟩ <;> simp
  simp only [dotStep, List.takeWhile_append_of_pos (not_slash_of_segment hs.1), ht,
    List.append_nil, List.dropWhile_append_of_pos (not_slash_of_segment hs.1), hd, hs.2.1, hs.2.2,
    ↓reduceIte]

theorem removeDotSegmentsLoop_of_segments (segs : List (List Char)) (hs : ∀ s ∈ segs, PlainSegment s)
    (fuel : Nat) (hf : (segs.map fun s => '/' :: s).flatten.length ≤ fuel) (out : List Char) :
    removeDotSegmentsLoop fuel (segs.map fun s => '/' :: s).flatten out =
      out ++ (segs.map fun s => '/' :: s).flatten := by
  induction segs generalizing fuel out with
  | nil => cases fuel <;> simp [removeDotSegmentsLoop]
  | cons seg segs ih =>
    obtain ⟨fuel, rfl⟩ : ∃ k, fuel = k + 1 := ⟨fuel - 1, by simp at hf; omega⟩
    have hr : (segs.map fun s => '/' :: s).flatten = [] ∨
        ∃ r, (segs.map fun s => '/' :: s).flatten = '/' :: r := by
      cases segs <;> simp
    rw [List.map_cons, List.flatten_cons, List.cons_append, removeDotSegmentsLoop.eq_3,
      dotStep_plain (hs seg (List.mem_cons_self _ _)) hr,
      ih (fun s h => hs s (List.mem_cons_of_mem _ h)) fuel (by simp at hf ⊢; omega)]
    simp

/-- A path of plain segments reads as itself. -/
theorem removeDotSegments_of_segments (segs : List (List Char))
    (hs : ∀ s ∈ segs, PlainSegment s) :
    removeDotSegments (segs.map fun s => '/' :: s).flatten = (segs.map fun s => '/' :: s).flatten :=
  removeDotSegmentsLoop_of_segments segs hs _ le_rfl []

end Go

end Lxd
