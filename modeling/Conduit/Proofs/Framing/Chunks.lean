import Conduit.Proofs.Framing.Cut

/-!
# Lines in Chunks

What a framer makes of a byte string that comes in chunks. Between two chunks it has
the bytes of an unfinished line, and as long as they are not more than a line may
have, it keeps them and looks at them again. Past that length it passes over them
and keeps their number. It still knows how much there was of the line, but not any
more that the last byte was a carriage return. If the next chunk starts with the line
feed that belongs to it, the line ending is `Severed`: the framer takes the return for
any other byte, and the line feed for one that stands alone.

So `cutChunks` cuts what `remember` says the framer knows. It agrees with cutting the
whole string exactly if no line ending is severed. Were one severed, the next thing
that the framer reports would be at least as long as what it has passed over, and the
line really is one byte shorter than that.

## Main definitions

* `Terminator.Severed`: A line ending is cut in two where the framer cannot know it.
* `Terminator.remember`: What a framer knows of the bytes that it has passed over.
* `Terminator.cutChunks`: The lines of a byte string in chunks, as a framer has them.
* `Terminator.Intact`: No line ending is severed.

## Theorems

* `remember_eq_self`, `remember_severed`, `length_remember`, `not_parted_remember`: What a
  framer knows of an unfinished line.
* `cutChunks_intact`: Without severed endings chunks make no difference.
* `intact_newline`, `intact_of_endings`: Where line feeds end lines alone, none is ever severed.
* `intact_whole`: In one piece there is nothing to sever.
* `length_first_cut`, `length_first_cutChunks`: How long the first line is.
* `cutChunks_intact_iff`: A severed ending does make a difference.
-/

namespace Conduit.Terminator

variable {t : Terminator} {limit : Nat}

/-- The two bytes of a line ending are in two chunks, and the first of them was passed over
    with the rest of a line longer than `limit`. -/
def Severed (t : Terminator) (limit : Nat) (begun chunk : Bytes) : Prop :=
  limit < begun.length ∧ t.Parted begun chunk

instance (t : Terminator) (limit : Nat) (begun chunk : Bytes) :
    Decidable (t.Severed limit begun chunk) :=
  inferInstanceAs (Decidable (_ ∧ _))

/-- What a framer knows of a line of which `begun` came before the chunk. A carriage return
    that was passed over could have been any byte. -/
def remember (t : Terminator) (limit : Nat) (begun chunk : Bytes) : Bytes :=
  if t.Severed limit begun chunk then begun.dropLast ++ [0] else begun

/-- The lines that end in chunks, as a framer has them, and what is left. -/
def cutChunks (t : Terminator) (limit : Nat) : (begun : Bytes) → List Bytes → List Line × Bytes
  | begun, [] => ([], begun)
  | begun, chunk :: chunks =>
    let here := t.cut (t.remember limit begun chunk) chunk
    let later := cutChunks t limit here.2 chunks
    (here.1 ++ later.1, later.2)

/-- No line ending is severed between chunks, the first of which comes after `begun`. -/
def Intact (t : Terminator) (limit : Nat) : (begun : Bytes) → List Bytes → Prop
  | _, [] => True
  | begun, chunk :: chunks =>
    ¬ t.Severed limit begun chunk ∧ Intact t limit (t.cut begun chunk).2 chunks

/-! ### What is known -/

theorem remember_eq_self {begun chunk : Bytes} (h : ¬ t.Severed limit begun chunk) :
    t.remember limit begun chunk = begun :=
  if_neg h

theorem remember_severed {begun chunk : Bytes} (h : t.Severed limit begun chunk) :
    ∃ front, begun = front ++ [carriageReturn] ∧ t.remember limit begun chunk = front ++ [0] := by
  rcases List.getLast?_eq_some_iff.mp h.2.2.1 with ⟨front, rfl⟩
  exact ⟨front, rfl, by rw [remember, if_pos h, List.dropLast_concat]⟩

@[simp] theorem length_remember (t : Terminator) (limit : Nat) (begun chunk : Bytes) :
    (t.remember limit begun chunk).length = begun.length := by
  by_cases h : t.Severed limit begun chunk
  · rcases remember_severed h with ⟨front, rfl, hremember⟩
    rw [hremember, List.length_append, List.length_append]
    rfl
  · rw [remember_eq_self h]

/-- What is known is never half of a line ending. -/
theorem not_parted_remember {begun : Bytes} (hlong : limit < begun.length) (chunk : Bytes) :
    ¬ t.Parted (t.remember limit begun chunk) chunk := by
  by_cases h : t.Severed limit begun chunk
  · rcases remember_severed h with ⟨front, -, hremember⟩
    rw [hremember]
    rintro ⟨-, hlast, -⟩
    exact absurd ((endsInReturn_concat front 0).mp hlast) (by decide)
  · rw [remember_eq_self h]
    exact fun hparted => h ⟨hlong, hparted⟩

theorem Open.remember {begun : Bytes} (hopen : t.Open begun) (chunk : Bytes) :
    t.Open (t.remember limit begun chunk) := by
  by_cases h : t.Severed limit begun chunk
  · rcases remember_severed h with ⟨front, rfl, hremember⟩
    rw [hremember]
    exact hopen.left.concat fun hend => absurd hend.1 (by decide)
  · rwa [remember_eq_self h]

/-! ### Chunks make no difference -/

theorem cutChunks_intact {begun : Bytes} {chunks : List Bytes} (h : t.Intact limit begun chunks) :
    t.cutChunks limit begun chunks = t.cut begun chunks.flatten := by
  induction chunks generalizing begun with
  | nil => rfl
  | cons chunk chunks ih =>
      rw [cutChunks, remember_eq_self h.1, List.flatten_cons, cut_append, ih h.2]

/-- Where line feeds end lines alone, nothing can be severed. -/
theorem intact_newline (limit : Nat) (begun : Bytes) (chunks : List Bytes) :
    newline.Intact limit begun chunks := by
  induction chunks generalizing begun with
  | nil => trivial
  | cons chunk chunks ih => exact ⟨fun h => h.2.1 rfl, ih _⟩

/-- A line ending that is severed has a carriage return in it. -/
theorem intact_of_endings {begun : Bytes} {chunks : List Bytes}
    (h : ∀ l ∈ (t.cut begun chunks.flatten).1, l.ending = [lineFeed]) :
    t.Intact limit begun chunks := by
  induction chunks generalizing begun with
  | nil => trivial
  | cons chunk chunks ih =>
      refine ⟨?_, ih fun l hl => h l ?_⟩
      · rintro ⟨-, ht, hlast, hhead⟩
        rcases List.getLast?_eq_some_iff.mp hlast with ⟨front, rfl⟩
        rcases List.head?_eq_some_iff.mp hhead with ⟨rest, rfl⟩
        rw [List.flatten_cons, List.cons_append, cut_return ht] at h
        exact absurd (h _ List.mem_cons_self) (by simp)
      · rw [List.flatten_cons, cut_append]
        exact List.mem_append_right _ hl

theorem intact_whole (t : Terminator) (limit : Nat) (bytes : Bytes) :
    t.Intact limit [] [bytes] :=
  ⟨fun h => not_parted_nil t bytes h.2, trivial⟩

/-! ### Chunks make a difference -/

/-- The first line that ends has all that has begun of it, but perhaps for half an ending. -/
theorem length_first_cut {begun bytes : Bytes} {l : Line} {lines : List Line}
    (h : ¬ t.Parted begun bytes) (hcut : (t.cut begun bytes).1 = l :: lines) :
    begun.length ≤ l.body.length := by
  rcases firstEnd_cut h with ⟨-, hnone⟩ | ⟨body, ending, rest, -, -, -, hsome⟩
  · rw [hnone] at hcut
    exact absurd hcut (by simp)
  · rw [hsome] at hcut
    rw [← (List.cons.inj hcut).1, List.length_append]
    exact Nat.le_add_right _ _

/-- The first line that a framer has is as long as what it has passed over of it. -/
theorem length_first_cutChunks {begun : Bytes} {chunks : List Bytes} {l : Line} {lines : List Line}
    (hlong : limit < begun.length) (h : (t.cutChunks limit begun chunks).1 = l :: lines) :
    begun.length ≤ l.body.length := by
  induction chunks generalizing begun with
  | nil => exact absurd h (by simp [cutChunks])
  | cons chunk chunks ih =>
      have hremember := length_remember t limit begun chunk
      rw [cutChunks] at h
      cases hhere : (t.cut (t.remember limit begun chunk) chunk).1 with
      | nil =>
          -- No line ends in this chunk, so there is more of it before the next one.
          have hleft := cut_flatten t (t.remember limit begun chunk) chunk
          rw [hhere, List.flatMap_nil, List.nil_append] at hleft
          have hmore : begun.length ≤ (t.cut (t.remember limit begun chunk) chunk).2.length := by
            rw [hleft, List.length_append, hremember]
            exact Nat.le_add_right _ _
          dsimp only at h
          rw [hhere, List.nil_append] at h
          exact Nat.le_trans hmore (ih (Nat.lt_of_lt_of_le hlong hmore) h)
      | cons first others =>
          have hfirst := length_first_cut (not_parted_remember hlong chunk) hhere
          dsimp only at h
          rw [hhere, List.cons_append] at h
          rwa [hremember, (List.cons.inj h).1] at hfirst

/-- Cutting in chunks gives lines of the same lengths exactly if no line ending is severed.
    That is so even for framers that only tell the lengths of long lines. -/
theorem cutChunks_intact_iff {α : Type} {tell : Line → α}
    (htell : ∀ l l' : Line, limit ≤ l.body.length → l.body.length < l'.body.length →
      tell l ≠ tell l') (begun : Bytes) (chunks : List Bytes) :
    (t.cutChunks limit begun chunks).1.map tell = (t.cut begun chunks.flatten).1.map tell ↔
      t.Intact limit begun chunks := by
  -- By induction on the chunks: up to the first severed ending both have found the same lines.
  refine ⟨fun h => ?_, fun h => by rw [cutChunks_intact h]⟩
  induction chunks generalizing begun with
  | nil => trivial
  | cons chunk chunks ih =>
      by_cases hsevered : t.Severed limit begun chunk
      · exfalso
        rcases hsevered with ⟨hlong, ht, hlast, hhead⟩
        rcases List.getLast?_eq_some_iff.mp hlast with ⟨front, rfl⟩
        rcases List.head?_eq_some_iff.mp hhead with ⟨rest, rfl⟩
        -- The line really ends before the return,
        rw [List.flatten_cons, List.cons_append, cut_return ht, List.map_cons] at h
        cases hchunks : (t.cutChunks limit (front ++ [carriageReturn])
          ((lineFeed :: rest) :: chunks)).1 with
        | nil =>
            rw [hchunks] at h
            exact absurd h (by simp)
        | cons l lines =>
            -- and the framer has it end after that.
            have hmore := length_first_cutChunks hlong hchunks
            rw [List.length_append, List.length_singleton] at hlong hmore
            rw [hchunks, List.map_cons] at h
            exact htell ⟨front, _⟩ l (Nat.le_of_lt_succ hlong) hmore (List.cons.inj h).1.symm
      · rw [cutChunks, remember_eq_self hsevered, List.flatten_cons, cut_append, List.map_append,
          List.map_append] at h
        exact ⟨hsevered, ih _ (List.append_cancel_left h)⟩

end Conduit.Terminator
