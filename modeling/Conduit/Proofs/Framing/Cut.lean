import Conduit.Framing.Line

/-!
# Lines of a Byte String

What a stream of bytes is as lines, whatever anyone does with it. `Terminator.cut`
goes through the bytes once, with what has begun of a line in its hand, and closes
the line at every line feed that ends one. Nothing in it is looked for twice, and it
knows of no longest line, no buffer and no chunks.

A framer does not work like that. It starts over at the front of what is readable,
each time it is asked, and it sees no byte that it has passed over. `firstEnd_cut`
says when that comes to the same thing: what has been passed over may not end in a
carriage return that the next byte, a line feed, makes half of a line ending. Such
an ending is `Parted`.

## Main definitions

* `Line`: The body of a line, and its ending.
* `Terminator.cut`: The lines that end in a byte string, and what is left.
* `Terminator.Open`: No line ends in a byte string.
* `Terminator.Parted`: A line ending has been cut in two.

## Theorems

* `cut_nil`, `cut_other`, `cut_free`, `cut_lineFeed`, `cut_return`: Cutting, byte by byte.
* `cut_append`: Cutting can stop anywhere and go on.
* `endsInReturn_concat`, `finish_bytes`: How a line ends.
* `cut_flatten`: Nothing is lost.
* `open_nil`, `Open.concat`, `Open.left`, `open_cut`: In what is left no line ends.
* `not_parted_nil`, `not_parted_end`: Where no ending is parted.
* `firstEndFrom_other`, `finds_firstEndFrom`: How a framer looks for the end of a line.
* `firstEnd_cut`: The end that a framer finds is the end of the first line.
-/

namespace Conduit

/-- A line, and the bytes that end it. -/
structure Line where
  body : Bytes
  ending : Bytes
  deriving DecidableEq, Repr

/-- The bytes of a line. -/
def Line.bytes (l : Line) : Bytes := l.body ++ l.ending

namespace Terminator

variable {t : Terminator}

/-- The last byte is a carriage return. -/
def EndsInReturn (bytes : Bytes) : Prop := bytes.getLast? = some carriageReturn

instance (bytes : Bytes) : Decidable (EndsInReturn bytes) :=
  inferInstanceAs (Decidable (_ = _))

/-- A line feed ends the line that has begun with these bytes. -/
def EndsAfter (t : Terminator) (begun : Bytes) : Prop :=
  t = .crlf → EndsInReturn begun

instance (t : Terminator) (begun : Bytes) : Decidable (t.EndsAfter begun) :=
  inferInstanceAs (Decidable (_ → _))

/-- The line that a line feed makes of what has begun. -/
def finish (t : Terminator) (begun : Bytes) : Line :=
  if t ≠ .newline ∧ EndsInReturn begun then ⟨begun.dropLast, [carriageReturn, lineFeed]⟩
  else ⟨begun, [lineFeed]⟩

/-- The lines that end in a byte string, and what is left after the last of them. The first
    line has begun with `begun`. -/
def cut (t : Terminator) : (begun : Bytes) → Bytes → List Line × Bytes
  | begun, [] => ([], begun)
  | begun, byte :: rest =>
    if byte = lineFeed ∧ t.EndsAfter begun then
      (t.finish begun :: (cut t [] rest).1, (cut t [] rest).2)
    else cut t (begun ++ [byte]) rest

/-- No line ends in these bytes. -/
def Open (t : Terminator) (bytes : Bytes) : Prop := t.cut [] bytes = ([], bytes)

/-- The ending of a line has been cut in two: after the carriage return that the one string
    ends in comes the line feed that the other one starts with. -/
def Parted (t : Terminator) (begun later : Bytes) : Prop :=
  t ≠ .newline ∧ EndsInReturn begun ∧ later.head? = some lineFeed

instance (t : Terminator) (begun later : Bytes) : Decidable (t.Parted begun later) :=
  inferInstanceAs (Decidable (_ ∧ _))

/-! ### One byte -/

@[simp] theorem cut_nil (t : Terminator) (begun : Bytes) : t.cut begun [] = ([], begun) := rfl

@[simp] theorem endsInReturn_concat (front : Bytes) (byte : UInt8) :
    EndsInReturn (front ++ [byte]) ↔ byte = carriageReturn := by
  rw [EndsInReturn, List.getLast?_concat, Option.some.injEq]

theorem cut_other {begun : Bytes} {byte : UInt8} (h : ¬ (byte = lineFeed ∧ t.EndsAfter begun))
    (rest : Bytes) : t.cut begun (byte :: rest) = t.cut (begun ++ [byte]) rest := by
  rw [cut, if_neg h]

/-- Without a line feed no line ends. -/
theorem cut_free {bytes : Bytes} (h : lineFeed ∉ bytes) (begun : Bytes) :
    t.cut begun bytes = ([], begun ++ bytes) := by
  induction bytes generalizing begun with
  | nil => rw [cut, List.append_nil]
  | cons byte rest ih =>
      have hbyte : byte ≠ lineFeed := fun hb => h (hb ▸ List.mem_cons_self)
      have hrest : lineFeed ∉ rest := fun hr => h (List.mem_cons_of_mem byte hr)
      rw [cut_other fun hend => hbyte hend.1, ih hrest, List.append_assoc]
      rfl

/-- A line feed that ends a line by itself. -/
theorem cut_lineFeed {begun : Bytes} (hends : t.EndsAfter begun)
    (halone : t ≠ .newline → ¬ EndsInReturn begun) (rest : Bytes) :
    t.cut begun (lineFeed :: rest) =
      (⟨begun, [lineFeed]⟩ :: (t.cut [] rest).1, (t.cut [] rest).2) := by
  rw [cut, if_pos ⟨rfl, hends⟩, finish, if_neg fun h => halone h.1 h.2]

/-- A line feed that ends a line together with a carriage return. -/
theorem cut_return (ht : t ≠ .newline) (begun rest : Bytes) :
    t.cut (begun ++ [carriageReturn]) (lineFeed :: rest) =
      (⟨begun, [carriageReturn, lineFeed]⟩ :: (t.cut [] rest).1, (t.cut [] rest).2) := by
  have hreturn : EndsInReturn (begun ++ [carriageReturn]) := (endsInReturn_concat _ _).mpr rfl
  rw [cut, if_pos ⟨rfl, fun _ => hreturn⟩, finish, if_pos ⟨ht, hreturn⟩, List.dropLast_concat]

/-! ### Cutting on -/

theorem cut_append (t : Terminator) (begun a b : Bytes) :
    t.cut begun (a ++ b) =
      ((t.cut begun a).1 ++ (t.cut (t.cut begun a).2 b).1, (t.cut (t.cut begun a).2 b).2) := by
  induction a generalizing begun with
  | nil => rfl
  | cons byte rest ih =>
      rw [List.cons_append, cut, cut]
      by_cases hend : byte = lineFeed ∧ t.EndsAfter begun
      · rw [if_pos hend, if_pos hend, ih]
        rfl
      · rw [if_neg hend, if_neg hend, ih]

theorem finish_bytes (t : Terminator) (begun : Bytes) :
    (t.finish begun).bytes = begun ++ [lineFeed] := by
  rw [finish]
  by_cases hreturn : t ≠ .newline ∧ EndsInReturn begun
  · have hlast : begun.dropLast ++ [carriageReturn] = begun := by
      rcases List.getLast?_eq_some_iff.mp hreturn.2 with ⟨front, rfl⟩
      rw [List.dropLast_concat]
    rw [if_pos hreturn, Line.bytes, ← hlast]
    simp
  · rw [if_neg hreturn, Line.bytes]

/-- The lines and what is left are all that there was. -/
theorem cut_flatten (t : Terminator) (begun bytes : Bytes) :
    (t.cut begun bytes).1.flatMap Line.bytes ++ (t.cut begun bytes).2 = begun ++ bytes := by
  induction bytes generalizing begun with
  | nil => simp
  | cons byte rest ih =>
      rw [cut]
      by_cases hend : byte = lineFeed ∧ t.EndsAfter begun
      · rw [if_pos hend, List.flatMap_cons, finish_bytes, List.append_assoc, ih, hend.1]
        simp
      · rw [if_neg hend, ih]
        simp

/-! ### What is left -/

theorem open_nil (t : Terminator) : t.Open [] := rfl

theorem Open.concat {begun : Bytes} {byte : UInt8} (h : t.Open begun)
    (hend : ¬ (byte = lineFeed ∧ t.EndsAfter begun)) : t.Open (begun ++ [byte]) := by
  rw [Open] at *
  rw [cut_append, h, cut, if_neg hend]
  rfl

theorem Open.left {a b : Bytes} (h : t.Open (a ++ b)) : t.Open a := by
  rw [Open, cut_append] at h
  have hlines : (t.cut [] a).1 = [] := (List.append_eq_nil_iff.mp (congrArg Prod.fst h)).1
  have hleft := cut_flatten t [] a
  rw [hlines] at hleft
  exact Prod.ext hlines hleft

theorem open_cut {begun : Bytes} (h : t.Open begun) (bytes : Bytes) :
    t.Open (t.cut begun bytes).2 := by
  induction bytes generalizing begun with
  | nil => exact h
  | cons byte rest ih =>
      rw [cut]
      by_cases hend : byte = lineFeed ∧ t.EndsAfter begun
      · rw [if_pos hend]
        exact ih (open_nil t)
      · rw [if_neg hend]
        exact ih (h.concat hend)

/-- Bytes in which no line ends may as well have begun before. -/
theorem Open.cut_append {begun : Bytes} (h : t.Open begun) (bytes : Bytes) :
    t.cut [] (begun ++ bytes) = t.cut begun bytes := by
  rw [Terminator.cut_append, h]
  rfl

/-! ### What a framer finds -/

theorem not_parted_nil (t : Terminator) (later : Bytes) : ¬ t.Parted [] later := by
  rintro ⟨-, hlast, -⟩
  exact absurd hlast (by simp [EndsInReturn])

theorem not_parted_end (t : Terminator) (begun : Bytes) : ¬ t.Parted begun [] := by
  rintro ⟨-, -, hhead⟩
  exact absurd hhead (by simp)

theorem firstEndFrom_other {byte : UInt8} (h : byte ≠ lineFeed) (i : Nat) (afterReturn : Bool)
    (rest : Bytes) :
    t.firstEndFrom i afterReturn (byte :: rest) =
      t.firstEndFrom (i + 1) (byte = carriageReturn) rest := by
  rw [firstEndFrom.eq_def]
  exact if_neg h

/-- An end of a line that was found in `bytes` is where `cutting` has the end of its first
    line, of which `begun` comes before `bytes`. -/
def Finds (t : Terminator) (begun bytes : Bytes) (found : Option (Nat × Nat))
    (cutting : List Line × Bytes) : Prop :=
  (found = none ∧ cutting = ([], begun ++ bytes)) ∨
  ∃ body ending rest, bytes = body ++ ending ++ rest ∧ ending ≠ [] ∧
    found = some (body.length, ending.length) ∧
    cutting = (⟨begun ++ body, ending⟩ :: (t.cut [] rest).1, (t.cut [] rest).2)

/-- A framer that has seen `seen`, with no end of a line in it, finds the right end in what
    comes later. `afterReturn` has to be right only where it is going to matter. -/
theorem finds_firstEndFrom {begun seen later : Bytes} {afterReturn : Bool}
    (hseen : afterReturn = true → EndsInReturn seen)
    (hafter : t ≠ .newline → later.head? = some lineFeed →
      (EndsInReturn (begun ++ seen) ↔ afterReturn = true)) :
    t.Finds begun (seen ++ later) (t.firstEndFrom seen.length afterReturn later)
      (t.cut (begun ++ seen) later) := by
  induction later generalizing seen afterReturn with
  | nil => exact Or.inl ⟨rfl, by simp⟩
  | cons byte rest ih =>
      -- Where no line ends, the byte joins those that were seen.
      have hgoOn : ∀ after : Bool, (after = true ↔ byte = carriageReturn) →
          t.Finds begun (seen ++ byte :: rest) (t.firstEndFrom (seen.length + 1) after rest)
            (t.cut (begun ++ (seen ++ [byte])) rest) := by
        intro after hbyte
        have hseen : after = true → EndsInReturn (seen ++ [byte]) := fun h =>
          (endsInReturn_concat seen byte).mpr (hbyte.mp h)
        have hnext := ih hseen fun _ _ => by rw [← List.append_assoc, endsInReturn_concat, hbyte]
        rwa [List.append_assoc seen, List.length_append] at hnext
      by_cases hfeed : byte = lineFeed
      · subst hfeed
        have hafter : t ≠ .newline → (EndsInReturn (begun ++ seen) ↔ afterReturn = true) :=
          fun ht => hafter ht rfl
        cases afterReturn with
        | true =>
            rcases List.getLast?_eq_some_iff.mp (hseen rfl) with ⟨body, rfl⟩
            by_cases ht : t = .newline
            · subst ht
              refine Or.inr ⟨body ++ [carriageReturn], [lineFeed], rest, by simp, by simp, rfl, ?_⟩
              exact cut_lineFeed (by rintro ⟨⟩) (fun h => absurd rfl h) rest
            · refine Or.inr ⟨body, [carriageReturn, lineFeed], rest, by simp, by simp, ?_, ?_⟩
              · cases t with
                | newline => exact absurd rfl ht
                | both | crlf => simp [firstEndFrom]
              · rw [← List.append_assoc, cut_return ht]
        | false =>
            have halone : t ≠ .newline → ¬ EndsInReturn (begun ++ seen) := fun ht h =>
              Bool.false_ne_true ((hafter ht).mp h)
            by_cases ht : t = .crlf
            · -- A line feed alone belongs to the line.
              subst ht
              have hend : ¬ (lineFeed = lineFeed ∧ EndsAfter .crlf (begun ++ seen)) := fun h =>
                halone (by decide) (h.2 rfl)
              rw [cut_other hend, List.append_assoc]
              exact hgoOn false (by decide)
            · refine Or.inr ⟨seen, [lineFeed], rest, by simp, by simp, ?_, ?_⟩
              · cases t with
                | crlf => exact absurd rfl ht
                | both | newline => rfl
              · exact cut_lineFeed (fun h => absurd h ht) halone rest
      · rw [cut_other fun h => hfeed h.1, firstEndFrom_other hfeed, List.append_assoc]
        exact hgoOn (byte = carriageReturn) decide_eq_true_iff

/-- The end that a framer finds is the end of the first line, also of one of which it has
    passed over the first bytes, if no line ending is cut in two there. -/
theorem firstEnd_cut {begun bytes : Bytes} (h : ¬ t.Parted begun bytes) :
    t.Finds begun bytes (t.firstEnd bytes) (t.cut begun bytes) := by
  have hseen : false = true → EndsInReturn [] := fun h => nomatch h
  have hfinds := finds_firstEndFrom hseen fun ht hhead => by
    rw [List.append_nil]
    exact ⟨fun hlast => absurd ⟨ht, hlast, hhead⟩ h, fun h => nomatch h⟩
  rwa [List.nil_append, List.append_nil] at hfinds

end Terminator

end Conduit
