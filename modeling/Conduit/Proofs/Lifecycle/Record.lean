import Conduit.Proofs.Outside.Interruption

/-!
# A Record of What Contexts Go Through

A context is linked and unlinked in the middle of calls that run hooks, and a hook may
start such calls of its own, so no statement about a single call says what a context goes
through in a whole run. A record does. Whenever a hook is called, and whenever it answers,
a `Note` is taken of it, and of who is linked at that moment.

Notes are taken where code of somebody else begins and ends. Nobody but the library runs
between two successive notes, so nobody can see more of a pipeline than the notes show,
and what happened to a context is read off them: its `story` has a hook where a note is
about it, and has it linked or unlinked where it is shown otherwise than it was before.

The notes are kept in the part of a world that the library knows nothing of. Whoever
answers a hook must not write there, so what he does is an `Agenda`: he tries to rearrange
pipelines as he likes, of those that there are, and keeps a value of his own. The notes are
taken by the caller and not by those who answer, so the library's own handlers are on record
as well.

## Main definitions

* `Note`, `Recorded`: What is noted, and where.
* `Agenda`, `Plans`: Code that rearranges pipelines.
* `World.noting`, `Plans.respond`: Answering with notes taken.
* `Juncture`, `story`: What happens to a context.
* `World.Recounts`: What has happened to a context between two worlds.

## Theorems

* `here_self`, `here_ne`, `hooked_self`, `hooked_ne`: What is told of a context itself, and
  of another one.
* `seenAgain_self`, `lastShown_append`, `story_append`: A story goes on where it stopped.
* `Recounts.still`, `Recounts.trans`: So it does between worlds.
* `inscribed_recounts`, `callHook_recounts`: What a note and a hook add to a story.
-/

namespace Conduit

variable {σ τ : Type} {n : Nat}

/-! ### Notes -/

/-- A note that the hook of a context is called, or of how it has answered. -/
structure Note where
  context : ContextId
  hook : Hook
  /-- Whether the hook has agreed, if it has answered. -/
  answer : Option Bool
  /-- Who is linked. -/
  linked : ContextId → Bool

/-- A value of somebody's own, and the notes that have been taken. -/
structure Recorded (τ : Type) where
  own : τ
  notes : List Note := []

instance [Journal τ] : Journal (Recorded τ) where
  record n r := { r with own := Journal.record n r.own }

namespace World

instance (w : World σ) (c : ContextId) : Decidable (w.IsLinked c) :=
  inferInstanceAs (Decidable (_ ∈ _))

/-- Whether a context is linked, to whoever looks. -/
def shows (w : World σ) (c : ContextId) : Bool := w.IsLinked c

/-- Takes a note. -/
def inscribed (w : World (Recorded τ)) (c : ContextId) (hook : Hook) (answer : Option Bool) :
    World (Recorded τ) :=
  w.setUser { w.user with notes := w.user.notes ++ [⟨c, hook, answer, w.shows⟩] }

/-- Answers as `call` does, and takes notes of hooks. -/
def noting (call : Caller (Recorded τ)) : Caller (Recorded τ)
  | .handler c (.hook hook), w =>
    let (outcome, w) := call (.handler c (.hook hook)) (w.inscribed c hook none)
    (outcome, w.inscribed c hook (some outcome.isOk))
  | upcall, w => call upcall w

end World

/-! ### Code that rearranges pipelines -/

/-- A program of attempts to rearrange any of `n` pipelines. What comes next depends on how the
    last attempt ended, and on what the world has come to. -/
inductive Agenda (n : Nat) (τ : Type) where
  | finish (outcome : Outcome)
  /-- Changes the value of one's own. -/
  | keep (f : τ → τ) (next : Agenda n τ)
  | move (p : Fin n) (m : Move) (next : Outcome → World (Recorded τ) → Agenda n τ)

/-- An agenda as a course, which leaves the notes alone. -/
def Agenda.course : Agenda n τ → Course (Recorded τ)
  | finish outcome => .finish outcome
  | keep f next => .act (.keep fun r => { r with own := f r.own }) fun _ _ => next.course
  | move p m next => .act (.move p m) fun outcome w => (next outcome w).course

/-- Code that answers the library by rearranging pipelines. -/
abbrev Plans (n : Nat) (τ : Type) := Upcall → World (Recorded τ) → Agenda n τ

namespace Plans

variable [Journal τ]

/-- Those who act by their plans. -/
def players (plans : Plans n τ) : Players (Recorded τ) := fun upcall w => (plans upcall w).course

/-- Answers calls that are nested at most `depth` deep, and takes notes of hooks. -/
def respond (plans : Plans n τ) : (depth : Nat) → Caller (Recorded τ)
  | 0 => World.noting fun _ w => (.error World.tooDeep, w)
  | depth + 1 =>
    World.noting (World.answer (plans.respond depth) (plans.players.play (plans.respond depth)))

end Plans

/-! ### Stories -/

/-- Something that happens to a context. -/
inductive Juncture where
  | linked
  | unlinked
  | called (hook : Hook)
  | answered (hook : Hook) (agreed : Bool)
  deriving DecidableEq, Repr

/-- What a note is of. -/
def Note.juncture (n : Note) : Juncture :=
  match n.answer with
  | none => .called n.hook
  | some agreed => .answered n.hook agreed

/-- Something that happens to one context, in the story of another. -/
def here (c d : ContextId) (e : Juncture) : List Juncture := if c = d then [e] else []

/-- What one context has to do with a hook of another: that it is called, what happens meanwhile,
    and how it answers. -/
def hooked (c d : ContextId) (hook : Hook) (meanwhile : List Juncture) (agreed : Bool) :
    List Juncture :=
  here c d (.called hook) ++ (meanwhile ++ here c d (.answered hook agreed))

/-- What has happened to a context that is seen again. -/
def seenAgain : (before after : Bool) → List Juncture
  | false, true => [.linked]
  | true, false => [.unlinked]
  | _, _ => []

/-- What happens to a context, by notes that follow a time when it was linked or not. -/
def story (d : ContextId) : Bool → List Note → List Juncture
  | _, [] => []
  | shown, n :: notes =>
    seenAgain shown (n.linked d) ++ (here n.context d n.juncture ++ story d (n.linked d) notes)

/-- Whether a context is linked where the notes end. -/
def lastShown (d : ContextId) (shown : Bool) (notes : List Note) : Bool :=
  notes.foldl (fun _ n => n.linked d) shown

section Story

variable {d : ContextId}

@[simp] theorem here_self (d : ContextId) (e : Juncture) : here d d e = [e] := if_pos rfl

theorem here_ne {c : ContextId} (hc : c ≠ d) (e : Juncture) : here c d e = [] := if_neg hc

theorem hooked_self (d : ContextId) (hook : Hook) (es : List Juncture) (agreed : Bool) :
    hooked d d hook es agreed = .called hook :: (es ++ [.answered hook agreed]) := by
  rw [hooked, here_self, here_self, List.singleton_append]

theorem hooked_ne {c : ContextId} (hc : c ≠ d) (hook : Hook) (es : List Juncture)
    (agreed : Bool) : hooked c d hook es agreed = es := by
  rw [hooked, here_ne hc, here_ne hc, List.nil_append, List.append_nil]

@[simp] theorem seenAgain_self (shown : Bool) : seenAgain shown shown = [] := by
  cases shown <;> rfl

/-- A story goes on where it stopped. -/
theorem story_append (d : ContextId) (shown : Bool) (notes more : List Note) :
    story d shown (notes ++ more) =
      story d shown notes ++ story d (lastShown d shown notes) more := by
  induction notes generalizing shown with
  | nil => rfl
  | cons n notes ih =>
      rw [List.cons_append, story, story, ih, List.append_assoc, List.append_assoc]
      rfl

theorem lastShown_append (d : ContextId) (shown : Bool) (notes more : List Note) :
    lastShown d shown (notes ++ more) = lastShown d (lastShown d shown notes) more :=
  List.foldl_append

end Story

/-! ### Between two worlds -/

namespace World

variable {w w₀ w₁ w₂ : World (Recorded τ)} {d : ContextId} {es es' : List Juncture}

/-- What has happened to a context between two worlds, by the notes taken. -/
def Recounts (d : ContextId) (w w' : World (Recorded τ)) (es : List Juncture) : Prop :=
  ∃ notes, w'.user.notes = w.user.notes ++ notes ∧ story d (w.shows d) notes = es ∧
    lastShown d (w.shows d) notes = w'.shows d

/-- Nothing has been noted, and nothing would be to note. -/
theorem Recounts.still (hnotes : w₁.user.notes = w.user.notes) (hshows : w₁.shows d = w.shows d) :
    Recounts d w w₁ [] :=
  ⟨[], by rw [hnotes, List.append_nil], rfl, hshows.symm⟩

theorem Recounts.trans (h : Recounts d w₀ w₁ es) (h' : Recounts d w₁ w₂ es') :
    Recounts d w₀ w₂ (es ++ es') := by
  obtain ⟨notes, hnotes, hstory, hlast⟩ := h
  obtain ⟨more, hmore, hstory', hlast'⟩ := h'
  refine ⟨notes ++ more, ?_, ?_, ?_⟩
  · rw [hmore, hnotes, List.append_assoc]
  · rw [story_append, hstory, hlast, hstory']
  · rw [lastShown_append, hlast, hlast']

/-- A note tells what it is of, and before that what has changed since the last one. -/
theorem inscribed_recounts (hnotes : w₁.user.notes = w.user.notes) (c : ContextId) (hook : Hook)
    (answer : Option Bool) :
    Recounts d w (w₁.inscribed c hook answer) (seenAgain (w.shows d) (w₁.shows d) ++
      here c d (Note.juncture ⟨c, hook, answer, w₁.shows⟩)) := by
  refine ⟨[⟨c, hook, answer, w₁.shows⟩], ?_, ?_, rfl⟩
  · rw [← hnotes]
    rfl
  · rw [story, story, List.append_nil]

/-- A hook tells that it is called, what happens meanwhile, and how it has answered. -/
theorem callHook_recounts {call : Caller (Recorded τ)} (hnotes : w₁.user.notes = w.user.notes)
    (c : ContextId) (hook : Hook)
    (h : Recounts d (w₁.inscribed c hook none)
      (call (.handler c (.hook hook)) (w₁.inscribed c hook none)).2 es) :
    Recounts d w (w₁.callHook (noting call) c hook).2
      (seenAgain (w.shows d) (w₁.shows d) ++
        hooked c d hook es (w₁.callHook (noting call) c hook).1.isOk) := by
  have hcalled := inscribed_recounts (d := d) hnotes c hook none
  have hanswered := inscribed_recounts (d := d) (w := (call (.handler c (.hook hook))
    (w₁.inscribed c hook none)).2) rfl c hook (some (w₁.callHook (noting call) c hook).1.isOk)
  rw [seenAgain_self, List.nil_append] at hanswered
  have hall := (hcalled.trans h).trans hanswered
  rwa [List.append_assoc, List.append_assoc] at hall

end World

end Conduit
