import Conduit.Proofs.Framing.Cut
import Mathlib.Data.List.Induction

/-!
# Splitting at Line Endings

What it is to split a byte string into lines, as one would write it down without an
algorithm in mind. The first line ending is found, what is before it is a line, and
with what is after it one starts over. Which ending is the first one is said in terms
of what is not in front of it: no line feed, or no line feed after a carriage return.
A carriage return in front of the line feed belongs to the ending where one counts.

`Terminator.cut` goes through the bytes one after the other, with a line in its hand,
and has nothing to say about first endings. `splits_iff` is that it finds the split,
and that there is no other one.

## Main definitions

* `Terminator.Ends`: A line ending, the first one after the front of a byte string.
* `Terminator.Unended`: There is no line ending in a byte string.
* `Terminator.Splits`: The lines of a byte string, and the rest of it.

## Theorems

* `return_lineFeed_infix_concat`, `unended_concat`, `open_concat`: One byte more.
* `unended_iff_open`: Where there is no line ending, no line ends.
* `Ends.unended`, `Ends.length_pos`, `Unended.finish`: What an ending is.
* `Ends.cut`: The first line is cut off there.
* `Ends.firstEnd`, `Unended.firstEnd`: A framer finds the ending that comes first.
* `Splits.cut_eq`, `splits_cut`: What cutting makes of a split, and a split of cutting.
* `splits_iff`: There is one split, and `cut` finds it.
-/

namespace Conduit.Terminator

/-- The first line ending after a front is `ending`, with `body` between the two. -/
inductive Ends : Terminator → (body ending : Bytes) → Prop
  /-- A line feed, whatever is before it. -/
  | newline {body : Bytes} : lineFeed ∉ body → Ends newline body [lineFeed]
  /-- A line feed that comes alone. -/
  | alone {body : Bytes} : lineFeed ∉ body → ¬ EndsInReturn body → Ends both body [lineFeed]
  /-- A line feed, together with the carriage return before it. -/
  | together {body : Bytes} : lineFeed ∉ body → Ends both body [carriageReturn, lineFeed]
  /-- A carriage return and a line feed. There may be line feeds before that. -/
  | crlf {body : Bytes} : ¬ [carriageReturn, lineFeed] <:+: body →
      Ends crlf body [carriageReturn, lineFeed]

/-- There is no line ending in these bytes. -/
def Unended : Terminator → Bytes → Prop
  | newline, bytes | both, bytes => lineFeed ∉ bytes
  | crlf, bytes => ¬ [carriageReturn, lineFeed] <:+: bytes

/-- The bytes split into these lines, with `left` after the last of them. -/
inductive Splits (t : Terminator) : (bytes : Bytes) → List Line → (left : Bytes) → Prop
  | rest {left : Bytes} : t.Unended left → Splits t left [] left
  | line {body ending later left : Bytes} {lines : List Line} :
      t.Ends body ending → Splits t later lines left →
        Splits t (body ++ ending ++ later) (⟨body, ending⟩ :: lines) left

variable {t : Terminator} {front body ending bytes left : Bytes} {byte : UInt8}
  {lines : List Line}

/-! ### One more byte -/

theorem return_lineFeed_infix_concat :
    [carriageReturn, lineFeed] <:+: front ++ [byte] ↔
      (byte = lineFeed ∧ EndsInReturn front) ∨ [carriageReturn, lineFeed] <:+: front := by
  rw [List.infix_concat_iff]
  refine or_congr_left ⟨?_, ?_⟩
  · rintro ⟨before, hbefore⟩
    have hsame : before ++ [carriageReturn] ++ [lineFeed] = front ++ [byte] := by
      rw [List.append_assoc]
      exact hbefore
    rcases List.append_singleton_inj.mp hsame with ⟨rfl, rfl⟩
    exact ⟨rfl, (endsInReturn_concat _ _).mpr rfl⟩
  · rintro ⟨rfl, hreturn⟩
    rcases List.getLast?_eq_some_iff.mp hreturn with ⟨before, rfl⟩
    exact ⟨before, by rw [List.append_assoc]; rfl⟩

theorem unended_concat :
    t.Unended (front ++ [byte]) ↔ t.Unended front ∧ ¬ (byte = lineFeed ∧ t.EndsAfter front) := by
  have hfeed : lineFeed ∉ front ++ [byte] ↔ lineFeed ∉ front ∧ byte ≠ lineFeed := by
    rw [List.mem_append, List.mem_singleton, not_or, eq_comm]
  cases t with
  | newline | both => simpa [Unended, EndsAfter] using hfeed
  | crlf =>
      rw [Unended, return_lineFeed_infix_concat, not_or, and_comm]
      exact and_congr_right fun _ => not_congr (and_congr_right fun _ =>
        ⟨fun h _ => h, fun h => h rfl⟩)

theorem open_concat :
    t.Open (front ++ [byte]) ↔ t.Open front ∧ ¬ (byte = lineFeed ∧ t.EndsAfter front) := by
  refine ⟨fun h => ⟨Open.left h, fun hend => ?_⟩, fun h => h.1.concat h.2⟩
  have hfront : t.cut [] front = ([], front) := Open.left h
  rw [Open, cut_append, hfront, Terminator.cut, if_pos hend] at h
  exact absurd (congrArg Prod.fst h) (List.cons_ne_nil _ _)

/-- Where there is no line ending, no line ends. -/
theorem unended_iff_open : t.Unended bytes ↔ t.Open bytes := by
  induction bytes using List.reverseRecOn with
  | nil => exact iff_of_true (by cases t <;> simp [Unended]) (open_nil t)
  | append_singleton front byte ih => rw [unended_concat, open_concat, ih]

/-! ### The first line -/

theorem Ends.unended (h : t.Ends body ending) : t.Unended body := by
  cases h with
  | newline hbody | alone hbody _ | together hbody | crlf hbody => exact hbody

theorem Ends.length_pos (h : t.Ends body ending) : 0 < ending.length := by
  cases h with
  | newline _ | alone _ _ | together _ | crlf _ => exact Nat.succ_pos _

/-- The ending that comes first is the one at which the first line is cut off. -/
theorem Ends.cut (h : t.Ends body ending) (later : Bytes) :
    t.cut [] (body ++ ending ++ later) =
      (⟨body, ending⟩ :: (t.cut [] later).1, (t.cut [] later).2) := by
  rw [List.append_assoc, (unended_iff_open.mp h.unended).cut_append]
  -- The carriage return joins the line, and is given up for the ending.
  have hpair : ∀ {t : Terminator}, t ≠ .newline →
      t.cut body ([carriageReturn, lineFeed] ++ later) =
        (⟨body, [carriageReturn, lineFeed]⟩ :: (t.cut [] later).1, (t.cut [] later).2) := by
    intro t ht
    exact (cut_other (fun h => absurd h.1 (by decide)) _).trans (cut_return ht body later)
  cases h with
  | newline _ =>
      exact cut_lineFeed (t := .newline) (fun h => nomatch h) (fun h => absurd rfl h) later
  | alone _ hreturn =>
      exact cut_lineFeed (t := .both) (fun h => nomatch h) (fun _ => hreturn) later
  | together _ => exact hpair (by decide)
  | crlf _ => exact hpair (by decide)

/-- A line feed that ends a line is the first ending after the front, or part of it. -/
theorem Unended.finish (h : t.Unended front) (hend : t.EndsAfter front) :
    t.Ends (t.finish front).body (t.finish front).ending := by
  rw [Terminator.finish]
  -- A return right before the line feed is part of the ending, if the terminator knows returns.
  by_cases hreturn : t ≠ .newline ∧ EndsInReturn front
  · rw [if_pos hreturn]
    rcases List.getLast?_eq_some_iff.mp hreturn.2 with ⟨body, rfl⟩
    rw [List.dropLast_concat]
    have hbody := (unended_concat.mp h).1
    cases t with
    | newline => exact absurd rfl hreturn.1
    | both => exact .together hbody
    | crlf => exact .crlf hbody
  · rw [if_neg hreturn]
    cases t with
    | newline => exact .newline h
    | both => exact .alone h fun hlast => hreturn ⟨by decide, hlast⟩
    | crlf => exact absurd ⟨by decide, hend rfl⟩ hreturn

/-- A framer finds the ending that comes first. -/
theorem Ends.firstEnd (h : t.Ends body ending) (later : Bytes) :
    t.firstEnd (body ++ ending ++ later) = some (body.length, ending.length) := by
  rcases firstEnd_cut (not_parted_nil t (body ++ ending ++ later)) with
    ⟨-, hcut⟩ | ⟨body', ending', later', -, -, hfound, hcut⟩
  · rw [h.cut] at hcut
    exact absurd (congrArg Prod.fst hcut) (List.cons_ne_nil _ _)
  · rw [h.cut] at hcut
    injection hcut with hlines
    injection hlines with hline
    injection hline with hbody hending
    rw [hfound, hbody, hending, List.nil_append]

theorem Unended.firstEnd (h : t.Unended bytes) : t.firstEnd bytes = none := by
  rcases firstEnd_cut (not_parted_nil t bytes) with ⟨hfound, -⟩ | ⟨_, _, _, -, -, -, hcut⟩
  · exact hfound
  · rw [unended_iff_open.mp h] at hcut
    exact absurd (congrArg Prod.fst hcut).symm (List.cons_ne_nil _ _)

/-! ### All lines -/

theorem Splits.cut_eq (h : t.Splits bytes lines left) : t.cut [] bytes = (lines, left) := by
  induction h with
  | rest hleft => exact unended_iff_open.mp hleft
  | line hends _ ih => rw [hends.cut, ih]

/-- Cutting splits what there is, after a front in which there is no line ending. -/
theorem splits_cut (h : t.Unended front) (bytes : Bytes) :
    t.Splits (front ++ bytes) (t.cut front bytes).1 (t.cut front bytes).2 := by
  induction bytes generalizing front with
  | nil =>
      rw [List.append_nil]
      exact .rest h
  | cons byte rest ih =>
      by_cases hend : byte = lineFeed ∧ t.EndsAfter front
      · have hbytes : front ++ byte :: rest =
            (t.finish front).body ++ (t.finish front).ending ++ rest := by
          rw [← Line.bytes, finish_bytes, hend.1, List.append_assoc]
          rfl
        rw [Terminator.cut, if_pos hend, hbytes]
        exact .line (h.finish hend.2) (ih (unended_iff_open.mpr (open_nil t)))
      · rw [cut_other hend, List.append_cons]
        exact ih (unended_concat.mpr ⟨h, hend⟩)

/-- There is one split of a byte string, and cutting finds it. -/
theorem splits_iff : t.Splits bytes lines left ↔ t.cut [] bytes = (lines, left) := by
  refine ⟨Splits.cut_eq, fun h => ?_⟩
  have hsplits := splits_cut (unended_iff_open.mpr (open_nil t)) bytes
  rwa [h] at hsplits

end Conduit.Terminator
