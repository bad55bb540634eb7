import Conduit.Proofs.Outside.Interruption

/-!
# Who Is Left

What descent says about the handlers that an event would reach. The roster that a
pipeline comes to host is the old one, with some members left out and new ones put
in. Seen from a member that is still there, in either direction, the old ones among
those ahead are the old ones that were ahead, as far as they are left.

## Theorems

* `ahead_filter`: Leaving some members out commutes with starting at another.
* `eq_of_id`, `eq_filter_of_sublist`: Members and parts of a roster.
* `targets_filter`, `targets_absent`: So it is for those that handle a kind.
* `Descends.survivors`, `Descends.still_mem`: Who of a roster is left.
* `Descends.targets_survivors`, `Descends.targets_survivors_reverse`: Who is left ahead.
-/

namespace Conduit

open Roster

namespace Roster

variable {l l' : Roster} {m : Member} {keep : Member → Bool} {cursor : Cursor}

/-- Leaving some members out commutes with starting at another. -/
theorem ahead_filter (hnd : (ids l).Nodup) (hm : m ∈ l) (hkeep : keep m = true)
    (hcursor : cursor = .at m.id ∨ cursor = .after m.id) :
    ahead (l.filter keep) cursor = (l.ahead cursor).filter keep := by
  rcases List.append_of_mem hm with ⟨a, b, rfl⟩
  have hid : m.id ∉ ids a := not_mem_before hnd
  -- The member is kept, so a cursor that finds it in the whole finds it in what is left.
  have hid' : m.id ∉ ids (a.filter keep) :=
    fun hmem => hid ((List.filter_sublist.map Member.id).subset hmem)
  rw [List.filter_append, List.filter_cons_of_pos hkeep]
  rcases hcursor with rfl | rfl
  · rw [ahead, dropWhile_split hid', ahead, dropWhile_split hid, List.filter_cons_of_pos hkeep]
  · rw [ahead, dropWhile_split hid', ahead, dropWhile_split hid, List.tail_cons, List.tail_cons]

/-- A member of a roster is known by its number. -/
theorem eq_of_id {m' : Member} (hnd : (ids l).Nodup) (hm : m ∈ l) (hm' : m' ∈ l)
    (hid : m'.id = m.id) : m' = m := by
  rcases List.append_of_mem hm with ⟨a, b, rfl⟩
  have hothers := (ids_nodup_middle.mp hnd).1
  rw [List.mem_append, List.mem_cons, or_left_comm] at hm'
  rcases hm' with rfl | hother
  · rfl
  · exact absurd (mem_ids.mpr ⟨m', List.mem_append.mpr hother, hid⟩) hothers

/-- A part of a roster in the same order is what is left when the others are left out. -/
theorem eq_filter_of_sublist {s : Roster} (hnd : l.Nodup) (hs : s.Sublist l) :
    s = l.filter (· ∈ s) := by
  have hself : s.filter (· ∈ s) = s := List.filter_eq_self.mpr fun x hx => by simpa using hx
  have hsub : s.Sublist (l.filter (· ∈ s)) := by
    have hfilter := hs.filter fun x => decide (x ∈ s)
    rwa [hself] at hfilter
  -- Neither holds anything twice, and both hold the same.
  refine hsub.eq_of_length_le (List.Nodup.length_le_of_subset (hnd.filter _) fun x hx => ?_)
  simpa using (List.mem_filter.mp hx).2

/-- If the old ones of a roster are what is left of another, so they are from a common member
    on. -/
theorem targets_filter (hnd : (ids l).Nodup) (hnd' : (ids l').Nodup)
    (hleft : l'.filter keep = l.filter (· ∈ l')) (hm : m ∈ l) (hm' : m ∈ l')
    (hkeep : keep m = true) (hcursor : cursor = .at m.id ∨ cursor = .after m.id)
    (kind : EventKind) :
    (l'.targets cursor kind).filter keep = (l.targets cursor kind).filter (· ∈ l') := by
  calc (l'.targets cursor kind).filter keep
      = ((l'.ahead cursor).filter keep).filter (·.events.handles kind) := by
        rw [targets, List.filter_comm]
    _ = (ahead (l'.filter keep) cursor).filter (·.events.handles kind) := by
        rw [ahead_filter hnd' hm' hkeep hcursor]
    _ = (ahead (l.filter (· ∈ l')) cursor).filter (·.events.handles kind) := by rw [hleft]
    _ = ((l.ahead cursor).filter (· ∈ l')).filter (·.events.handles kind) := by
        rw [ahead_filter hnd hm (by simpa using hm') hcursor]
    _ = (l.targets cursor kind).filter (· ∈ l') := by rw [targets, List.filter_comm]

/-- Nothing lies ahead of a context that is not there. -/
theorem targets_absent {c : ContextId} (hc : c ∉ ids l)
    (hcursor : cursor = .at c ∨ cursor = .after c) (kind : EventKind) :
    l.targets cursor kind = [] := by
  rcases hcursor with rfl | rfl
  · rw [targets, ahead, dropWhile_absent hc, List.filter_nil]
  · rw [targets, ahead, dropWhile_absent hc, List.tail_nil, List.filter_nil]

end Roster

namespace World

variable {σ : Type} {w w' : World σ} {p : PipelineId} {m : Member} {cursor : Cursor}

variable (hw : w.Sound) (h : Descends w.contexts.length w w')
include hw h

/-- Those members of a roster that were there before are those of the old roster that are
    left. -/
theorem Descends.survivors (p : PipelineId) :
    (w'.roster p).filter (fun m => m.id < w.contexts.length) =
      (w.roster p).filter (· ∈ w'.roster p) := by
  have hnd : (w.roster p).Nodup :=
    (List.pairwise_map.mp (hw p).holds.linked.ids_nodup).imp fun hne he => hne (congrArg _ he)
  rw [eq_filter_of_sublist hnd (h.kept p)]
  refine List.filter_congr fun m hm => ?_
  have hknown := (hw p).known m hm
  simp [hknown]

variable (hm : m ∈ w.roster p)
include hm

/-- A member that is still linked is still a member. -/
theorem Descends.still_mem (hlinked : w'.IsLinked m.id) : m ∈ w'.roster p := by
  have hknown := (hw p).known m hm
  rw [isLinked_iff, (h.known m.id hknown).1, (hw p).pipeline m hm] at hlinked
  rcases mem_ids.mp hlinked with ⟨m', hm', hid⟩
  have hold := h.mem hm' (by rw [hid]; exact hknown)
  exact eq_of_id (hw p).holds.linked.ids_nodup hm hold hid ▸ hm'

variable (hlinked : w'.IsLinked m.id) (hcursor : cursor = .at m.id ∨ cursor = .after m.id)
  (kind : EventKind)
include hlinked hcursor

/-- Those who are left ahead of a member that is still linked. -/
theorem Descends.targets_survivors :
    ((w'.roster p).targets cursor kind).filter (fun x => x.id < w.contexts.length) =
      ((w.roster p).targets cursor kind).filter (· ∈ w'.roster p) :=
  targets_filter (hw p).holds.linked.ids_nodup (h.sound p).holds.linked.ids_nodup
    (h.survivors hw p) hm (h.still_mem hw hm hlinked)
    (by simpa using (hw p).known m hm) hcursor kind

/-- So it is in the other direction. -/
theorem Descends.targets_survivors_reverse :
    (targets (w'.roster p).reverse cursor kind).filter (fun x => x.id < w.contexts.length) =
      (targets (w.roster p).reverse cursor kind).filter (· ∈ w'.roster p) := by
  have hleft : (w'.roster p).reverse.filter (fun m => decide (m.id < w.contexts.length)) =
      (w.roster p).reverse.filter (· ∈ (w'.roster p).reverse) := by
    rw [List.filter_reverse, h.survivors hw p, List.filter_reverse]
    simp only [List.mem_reverse]
  have htargets := targets_filter (ids_nodup_reverse.mpr (hw p).holds.linked.ids_nodup)
    (ids_nodup_reverse.mpr (h.sound p).holds.linked.ids_nodup) hleft (List.mem_reverse.mpr hm)
    (List.mem_reverse.mpr (h.still_mem hw hm hlinked)) (by simpa using (hw p).known m hm)
    hcursor kind
  simpa only [List.mem_reverse] using htargets

end World

end Conduit
