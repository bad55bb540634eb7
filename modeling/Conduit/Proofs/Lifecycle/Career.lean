import Conduit.Proofs.Dispatch.Inbound
import Conduit.Proofs.Lifecycle.Chapter

/-!
# What a Context Goes Through

Handlers whose hooks fail, and add, remove and replace handlers, as deep as the calls are
nested, and somebody who starts all that. A hook may take out the very context that is being
added, or the one whose place another is about to take. What every context goes through is
orderly all the same: it is linked once at most, after it has agreed to that, and told so
once; it is unlinked once at most, after it has agreed to that, and told so once; it is told
so on no other occasion; and it is marked just if it has been unlinked.

The knot of calls is untied by depth. If hooks that are nested less deeply are chapters,
what those do who answer a hook is one chapter after the other, so the hook is one too.

## Main definitions

* `World.Career`: What a context goes through.

## Theorems

* `Endures.noting`: Notes do not show.
* `answer_hook`: The hooks of users are answered by users, the others agree.
* `Scribe.agenda`: Whatever is on an agenda is a chapter.
* `Scribe.noting`, `Scribe.plans`: Arbitrary handlers may be called within a chapter.
* `Tally.once`, `Tally.not_again`, `Tally.hasPassed`: Passages are made once.
* `hasPassed_joining`, `Tally.career`: A career, from what is told and counted.
* `run_career`: What a context goes through in a run.
* `sampleBlank_sound`, `run_career_sampleReign`: Three handlers in an empty pipeline.
-/

namespace Conduit

namespace World

variable {σ τ : Type} {n : Nat} {w w' : World (Recorded τ)} {c d : ContextId}
  {es : List Juncture} {call : Caller (Recorded τ)}
  {R : World (Recorded τ) → World (Recorded τ) → Prop} [Journal τ]

/-! ### What handlers keep -/

/-- Notes do not show. -/
theorem Endures.noting (h : Endures R) (hcall : Heeds R call) : Heeds R (noting call) := by
  intro upcall w
  cases upcall with
  | handler c callback =>
      cases callback with
      | hook hook =>
          have hcalled : R w (w.inscribed c hook none) := h.same rfl
          have hanswered := hcall (.handler c (.hook hook)) (w.inscribed c hook none)
          exact h.trans (h.trans hcalled hanswered) (h.same rfl)
      | inbound event => exact hcall _ w
      | outbound r => exact hcall _ w
  | sink p sink ask => exact hcall _ w
  | listener l f => exact hcall _ w
  | task tag => exact hcall _ w

/-- A hook of a handler of the user's is answered by the user, and the others agree. -/
theorem answer_hook (call user : Caller σ) [Journal σ] (w : World σ) (c : ContextId)
    (hook : Hook) :
    answer call user (.handler c (.hook hook)) w = (.ok (), w) ∨
      answer call user (.handler c (.hook hook)) w = user (.handler c (.hook hook)) w := by
  rw [answer, handlerCalled]
  cases (w.context c).handler.role with
  | custom tag => exact .inr rfl
  | _ => exact .inl rfl

/-! ### Chapters of a run -/

/-- Whatever is on an agenda is a chapter. -/
theorem Scribe.agenda (h : Scribe n d call) (agenda : Agenda n τ) (hw : w.Founded n) :
    Chapter d w (agenda.course.play call w).2 := by
  -- What comes next may look at the world, so the world is not fixed.
  induction agenda generalizing w with
  | finish outcome => exact .refl d w
  | keep f next ih =>
      have hkept : Chapter d w (w.setUser { w.user with own := f w.user.own }) := .same rfl rfl
      exact hkept.trans (ih (hw.of_length (Sound.of_outline (w := w) rfl hw.sound) rfl))
  | move p m next ih =>
      have hmoved := h.move hw p.isLt m
      have hlineage := lineage_abides.move h.lineage w p m hw.sound
      have hstays := pipelines_endure.move h.stays w p m
      rw [← attempt_world] at hmoved hlineage hstays
      exact hmoved.trans (ih _ _ ⟨hlineage.sound, fun q hq => hstays q (hw.pipelines q hq)⟩)

/-- If hooks are chapters, whoever takes notes of them is a scribe. -/
theorem Scribe.noting (hlineage : Heeds Lineage call)
    (hstays : Heeds (fun w w' => ∀ p < w.pipelines.length, p < w'.pipelines.length) call)
    (hhook : ∀ {w : World (Recorded τ)}, w.Founded n → ∀ c hook,
      Chapter d w (call (.handler c (.hook hook)) w).2) : Scribe n d (noting call) where
  lineage := lineage_abides.endures.noting hlineage
  stays := pipelines_endure.noting hstays
  hook := by
    intro w w₁ w₂ c hook outcome hw₁ hnotes hcall
    have hinscribed : (w₁.inscribed c hook none).Founded n :=
      hw₁.of_length (Sound.of_outline (w := w₁) rfl hw₁.sound) rfl
    obtain ⟨es, hrecounts, htold, htally⟩ := hhook hinscribed c hook
    -- The note of a hook comes before what the hook tells.
    have hall := callHook_recounts hnotes c hook hrecounts
    rw [hcall] at hall
    obtain rfl : _ = w₂ := congrArg Prod.snd hcall
    -- To take a note is no passage.
    exact ⟨es, htold, htally, hall⟩

/-- Arbitrary handlers may be called within a chapter. -/
theorem Scribe.plans (plans : Plans n τ) (d : ContextId) (depth : Nat) :
    Scribe n d (plans.respond depth) := by
  -- Whoever answers a hook makes calls whose hooks are nested less deeply.
  induction depth with
  | zero => exact .noting (fun _ w => .refl w) (fun _ _ _ hp => hp) fun _ _ _ => .refl d _
  | succ depth ih =>
      refine .noting (lineage_abides.endures.answer plans.players ih.lineage)
        (pipelines_endure.answer plans.players ih.stays) fun {w} hw c hook => ?_
      rcases answer_hook (plans.respond depth) (plans.players.play (plans.respond depth)) w c
        hook with hanswer | hanswer
      · -- By those who agree, nothing is told.
        rw [hanswer]
        exact .refl d w
      · rw [hanswer]
        exact ih.agenda _ hw

/-! ### The whole run -/

section Tally

variable {v v' : World σ} {x : Passage}

theorem Tally.once (h : Tally c v v' es) (x : Passage) : es.count x.change ≤ 1 := by
  have hcount := h x
  have hle := Bool.toNat_le (v'.hasPassed c x)
  omega

/-- Whoever has passed does not pass again. -/
theorem Tally.not_again (h : Tally c v v' es) (hpassed : v.hasPassed c x = true) :
    x.change ∉ es := by
  have hcount := h x
  have hle := Bool.toNat_le (v'.hasPassed c x)
  rw [hpassed, Bool.toNat_true] at hcount
  exact List.count_eq_zero.mp (by omega)

/-- Whoever has passed in the end had passed before, or the story has it. -/
theorem Tally.hasPassed (h : Tally c v v' es) (x : Passage) :
    v'.hasPassed c x = true ↔ v.hasPassed c x = true ∨ x.change ∈ es := by
  have hcount := h x
  have hle := Bool.toNat_le (v'.hasPassed c x)
  rw [← List.count_pos_iff, ← Bool.toNat_eq_one, ← Bool.toNat_eq_one]
  omega

theorem hasPassed_joining (v : World σ) (c : ContextId) :
    v.hasPassed c .joining = true ↔ v.IsLinked c ∨ (v.context c).removed = true := by
  rw [World.hasPassed, Bool.or_eq_true, shows_iff]

end Tally

/-- What a context goes through while a world becomes another one. -/
structure Career (w w' : World σ) (c : ContextId) (es : List Juncture) : Prop where
  /-- It is linked once at most, and not at all if it has been before. -/
  linked_once : es.count .linked ≤ 1
  not_relinked : w.IsLinked c ∨ (w.context c).removed = true → .linked ∉ es
  /-- It has agreed to that before, and is told so after. -/
  linked : ∀ a b, es = a ++ .linked :: b →
    .answered .beforeAdd true ∈ a ∧ .called .afterAdd ∈ b
  /-- It is told so once for every time, and on no other occasion. -/
  called_afterAdd : es.count (.called .afterAdd) = es.count .linked
  /-- It is unlinked once at most, and not at all if it has been before. -/
  unlinked_once : es.count .unlinked ≤ 1
  not_reunlinked : (w.context c).removed = true → .unlinked ∉ es
  unlinked : ∀ a b, es = a ++ .unlinked :: b →
    .answered .beforeRemove true ∈ a ∧ .called .afterRemove ∈ b
  called_afterRemove : es.count (.called .afterRemove) = es.count .unlinked
  /-- All that has become of it is in the story. -/
  isLinked : w'.IsLinked c ↔ (w.IsLinked c ∨ .linked ∈ es) ∧ .unlinked ∉ es
  removed : (w'.context c).removed = true ↔ (w.context c).removed = true ∨ .unlinked ∈ es

/-- What is told and counted of a context between sound worlds is a career. -/
theorem Tally.career {v v' : World σ} (hv : v.Sound) (hv' : v'.Sound) (htold : Told es)
    (h : Tally c v v' es) : Career v v' c es where
  linked_once := h.once .joining
  not_relinked := fun hbefore => h.not_again (x := .joining) ((hasPassed_joining v c).mpr hbefore)
  linked := (htold .joining).comes
  called_afterAdd := (htold .joining).count
  unlinked_once := h.once .leaving
  not_reunlinked := fun hbefore => h.not_again (x := .leaving) hbefore
  unlinked := (htold .leaving).comes
  called_afterRemove := (htold .leaving).count
  isLinked := by
    -- Whoever is linked has joined and has not left, before the run as well as after it.
    have hjoined := h.hasPassed .joining
    rw [hasPassed_joining, hasPassed_joining] at hjoined
    have hleft : (v'.context c).removed = true ↔ (v.context c).removed = true ∨ .unlinked ∈ es :=
      h.hasPassed .leaving
    -- In a sound world nobody is linked who is marked.
    have hunmarked : v.IsLinked c → ¬ (v.context c).removed = true :=
      fun hlinked => Bool.eq_false_iff.mp (hv.linked hlinked).2
    have hunmarked' : v'.IsLinked c → ¬ (v'.context c).removed = true :=
      fun hlinked => Bool.eq_false_iff.mp (hv'.linked hlinked).2
    constructor
    · intro hlinked
      have hstayed : .unlinked ∉ es := fun hmem => hunmarked' hlinked (hleft.mpr (.inr hmem))
      rcases hjoined.mp (.inl hlinked) with (hbefore | hmark) | hmem
      · exact ⟨.inl hbefore, hstayed⟩
      · exact absurd (hleft.mpr (.inl hmark)) (hunmarked' hlinked)
      · exact ⟨.inr hmem, hstayed⟩
    · rintro ⟨hentered, hstayed⟩
      have hmark : ¬ (v.context c).removed = true :=
        hentered.elim hunmarked fun hmem hmark =>
          h.not_again (x := .joining) ((hasPassed_joining v c).mpr (.inr hmark)) hmem
      have hmark' : ¬ (v'.context c).removed = true :=
        fun hremoved => (hleft.mp hremoved).elim hmark hstayed
      exact (hjoined.mpr (hentered.imp_left .inl)).resolve_right hmark'
  removed := h.hasPassed .leaving

/-- Somebody rearranges pipelines, and hooks fail or rearrange pipelines in turn, however deeply
    that is nested. When all has returned, every context has had its career, in the story that
    the notes tell. -/
theorem run_career (plans : Plans n τ) (depth : Nat) (agenda : Agenda n τ) (hw : w.Sound)
    (hn : n ≤ w.pipelines.length) (hnotes : w.user.notes = []) (c : ContextId) :
    let w' := (agenda.course.play (plans.respond depth) w).2
    Career w w' c (story c (w.shows c) w'.user.notes) := by
  intro w'
  have hfounded : w.Founded n := ⟨hw, fun p hp => Nat.lt_of_lt_of_le hp hn⟩
  have hscribe := Scribe.plans plans c depth
  obtain ⟨es, ⟨notes, hadded, hstory, -⟩, htold, htally⟩ := hscribe.agenda agenda hfounded
  have hw' : w'.Sound :=
    (lineage_abides.endures.course hscribe.lineage agenda.course w hw).sound
  -- As there were no notes before, those of the run are all that there are.
  rw [hnotes, List.nil_append] at hadded
  rw [hadded, hstory]
  exact htally.career hw hw' htold

/-- An empty pipeline. -/
def sampleBlank : World (Recorded Diary) where
  pipelines := [{}]
  user := { own := {} }

theorem sampleBlank_sound : sampleBlank.Sound := by
  refine sound_of fun p hp => ⟨[], ?_⟩
  have hp : p = 0 := Nat.lt_one_iff.mp hp
  subst hp
  exact {
    holds := Chain.empty_holds
    known := by simp
    pipeline := by simp
    name := by simp
    events := by simp
    linked := by simp }

/-- The handler that has been replaced takes out the one that stands in its place, and then
    fails. -/
def sampleGrudge : Plans 1 Diary
  | .handler 1 (.hook .afterRemove), _ =>
    .move 0 (.remove "d") fun _ _ => .finish (.error tooDeep)
  | _, _ => .finish (.ok ())

/-- Three handlers are added, and the second one is replaced. -/
def sampleSuccession : Agenda 1 Diary :=
  let handler := (sampleContext "" [.channelActive]).handler
  .move 0 (.add .last "a" handler) fun _ _ =>
    .move 0 (.add .last "b" handler) fun _ _ =>
      .move 0 (.add .last "c" handler) fun _ _ =>
        .move 0 (.replace "b" "d" handler) fun outcome _ => .finish outcome

/-- What that comes to. -/
def sampleReign : World (Recorded Diary) :=
  (sampleSuccession.course.play (sampleGrudge.respond 3) sampleBlank).2

/-- The new handler is told that it has been added when it has already been removed. -/
def sampleStory : List Juncture :=
  [.called .beforeAdd, .answered .beforeAdd true, .linked,
    .called .beforeRemove, .answered .beforeRemove true, .unlinked,
    .called .afterRemove, .answered .afterRemove true,
    .called .afterAdd, .answered .afterAdd true]

theorem run_career_sampleReign : Career sampleBlank sampleReign 3 sampleStory := by
  have hstory : story 3 (sampleBlank.shows 3) sampleReign.user.notes = sampleStory := by
    decide +kernel
  have h := run_career sampleGrudge 3 sampleSuccession sampleBlank_sound (by decide) rfl 3
  rw [← hstory, sampleReign]
  exact h

end World

end Conduit
