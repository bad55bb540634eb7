import Conduit.Proofs.Buffer.Held

/-!
# Filling a Buffer

Several pieces are appended to a buffer, one after the other. Each of them is appended as a
whole or left out as a whole, and one that is left out does not keep out a shorter one after
it. Which pieces are appended depends on their lengths and on the room that there was, and on
nothing else of the buffer. If there is room for all of them together, none is left out.

## Main definitions

* `admitted`: The pieces that find room.
* `Sealed.room`: How many more bytes a buffer takes.
* `Sealed.Gained`: A buffer to which some bytes were appended.

## Theorems

* `admitted_fits`, `admitted_out`: Whether the first piece finds room.
* `admitted_append`: The later pieces get what room is left.
* `admitted_all`: If there is room for all pieces, all are admitted.
* `Sealed.Gained.refl`, `Sealed.Gained.trans`, `Sealed.Gained.room_eq`: Gains add up, and
  take up room.
* `Sealed.write_gained`, `Sealed.drainInto_gained`: One piece is appended, if it is admitted.
* `Sealed.drainInto_left`: What is left of a buffer that was drained.
-/

namespace Conduit

/-- The pieces that find room when they are appended one after the other. -/
def admitted : (room : Nat) → List Bytes → List Bytes
  | _, [] => []
  | room, piece :: rest =>
    if piece.length ≤ room then piece :: admitted (room - piece.length) rest
    else admitted room rest

theorem admitted_fits {room : Nat} {piece : Bytes} (h : piece.length ≤ room) (rest : List Bytes) :
    admitted room (piece :: rest) = piece :: admitted (room - piece.length) rest := by
  rw [admitted, if_pos h]

theorem admitted_out {room : Nat} {piece : Bytes} (h : ¬ piece.length ≤ room)
    (rest : List Bytes) : admitted room (piece :: rest) = admitted room rest := by
  rw [admitted, if_neg h]

/-- The later pieces get what room the earlier ones have left. -/
theorem admitted_append (room : Nat) (pieces more : List Bytes) :
    admitted room (pieces ++ more) =
      admitted room pieces ++ admitted (room - (admitted room pieces).flatten.length) more := by
  -- A piece that is left out leaves the room as it was.
  induction pieces generalizing room with
  | nil => rfl
  | cons piece rest ih =>
      rw [List.cons_append]
      by_cases hfits : piece.length ≤ room
      · rw [admitted_fits hfits, admitted_fits hfits, ih, List.flatten_cons, List.length_append,
          Nat.sub_add_eq, List.cons_append]
      · rw [admitted_out hfits, admitted_out hfits, ih]

/-- If there is room for all pieces, all are admitted. -/
theorem admitted_all {room : Nat} {pieces : List Bytes} (h : pieces.flatten.length ≤ room) :
    admitted room pieces = pieces := by
  induction pieces generalizing room with
  | nil => rfl
  | cons piece rest ih =>
      rw [List.flatten_cons, List.length_append] at h
      have hfits : piece.length ≤ room := by omega
      have hrest : rest.flatten.length ≤ room - piece.length := by omega
      rw [admitted_fits hfits, ih hrest]

namespace Sealed

/-- How many more bytes a buffer takes. -/
def room (s : Sealed) : Nat := s.buffer.maxWritableBytes

/-- A buffer to which `bytes` were appended. -/
structure Gained (s s' : Sealed) (bytes : Bytes) : Prop where
  sound : s'.buffer.Sound s'.memory
  content : s'.content = s.content ++ bytes
  room : s'.room + bytes.length = s.room

variable {s s' s'' : Sealed} {bytes more : Bytes}

theorem Gained.refl (h : s.buffer.Sound s.memory) : s.Gained s [] :=
  ⟨h, (List.append_nil _).symm, rfl⟩

theorem Gained.trans (h : s.Gained s' bytes) (h' : s'.Gained s'' more) :
    s.Gained s'' (bytes ++ more) where
  sound := h'.sound
  content := by rw [h'.content, h.content, List.append_assoc]
  room := by
    have hroom := h.room
    have hroom' := h'.room
    rw [List.length_append]
    omega

/-- After a piece there is so much less room. -/
theorem Gained.room_eq (h : s.Gained s' bytes) : s'.room = s.room - bytes.length := by
  have hroom := h.room
  omega

/-- A piece is appended if there is room for it, and otherwise nothing is done. -/
theorem write_gained (h : s.buffer.Sound s.memory) (src : Bytes) :
    s.Gained (s.write src).2 (admitted s.room [src]).flatten ∧
      (s.write src).1 = (admitted s.room [src]).flatten.length := by
  by_cases hfits : src.length ≤ s.room
  · rcases h.write hfits with ⟨rs, m', hwrite, hsound, hcontent⟩
    -- Writing takes all of a piece or nothing, as `admitted` does.
    have hone : (admitted s.room [src]).flatten = src := by
      rw [admitted_fits hfits, admitted, List.flatten_singleton]
    rw [hone, Sealed.write, hwrite]
    refine ⟨⟨hsound, hcontent, ?_⟩, rfl⟩
    unfold room Buffer.maxWritableBytes at hfits ⊢
    dsimp only
    omega
  · have hrefused := h.write_refused (Nat.not_le.mp hfits)
    rw [admitted_out hfits, Sealed.write, hrefused]
    exact ⟨Gained.refl h, rfl⟩

/-- So is what can be read of another buffer. -/
theorem drainInto_gained (h : s.buffer.Sound s.memory) (src : Sealed) :
    s.Gained (src.drainInto s).2 (admitted s.room [src.content]).flatten :=
  (write_gained h src.content).1

/-- Of a buffer that was drained nothing is left if there was room, and otherwise all is. -/
theorem drainInto_left (h : s.buffer.Sound s.memory) {src : Sealed}
    (hsrc : src.buffer.Sound src.memory) :
    (src.drainInto s).1.discardReadBytes.buffer.Sound (src.drainInto s).1.discardReadBytes.memory ∧
      (src.drainInto s).1.discardReadBytes.content =
        if src.content.length ≤ s.room then [] else src.content := by
  obtain ⟨count, hcount⟩ : ∃ count, count = (s.write src.content).1 := ⟨_, rfl⟩
  have hpast : (src.drainInto s).1 = src.past count := by
    rw [hcount]
    rfl
  have hsize : src.content.length = src.readableBytes := hsrc.length_content
  rw [(write_gained h src.content).2] at hcount
  -- Either all of it was read, or none.
  have hread : count ≤ src.readableBytes ∧ src.content.drop count =
      if src.content.length ≤ s.room then [] else src.content := by
    by_cases hfits : src.content.length ≤ s.room
    · rw [admitted_fits hfits, admitted, List.flatten_singleton] at hcount
      rw [if_pos hfits, hcount]
      exact ⟨Nat.le_of_eq hsize, List.drop_length⟩
    · rw [admitted_out hfits, admitted, List.flatten_nil] at hcount
      rw [if_neg hfits, hcount]
      exact ⟨Nat.zero_le _, rfl⟩
  rcases past_sound hsrc hread.1 with ⟨hsound, hcontent, -⟩
  rcases hsound.discardReadBytes with ⟨b', m', hdiscard, hsound', hcontent', -⟩
  rw [hpast, discardReadBytes, hdiscard]
  exact ⟨hsound', hcontent'.trans (hcontent.trans hread.2)⟩

end Sealed

end Conduit
