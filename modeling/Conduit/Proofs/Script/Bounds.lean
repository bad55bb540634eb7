import Conduit.Proofs.Script.Outline

/-!
# Programs Stay Within Bounds

What a step of a program keeps. Every buffer of a machine is backed by its memory,
and stays so whatever is done to it or to others that share its bytes. What a step
writes, it writes into the buffer that it works on; making a buffer writes nothing.
And a step that refuses leaves everything as it was: the machine after it is the
machine before it.

## Main definitions

* `Registers.Sound`: All buffers of a machine are backed.
* `BufferReply.Refuses`: An answer that says that nothing was done.
* `Registers.target`: The regions that a step may write to.
* `Registers.Kept`: What a step keeps.

## Theorems

* `refuses_count`, `find_yields`: Answers, and buffers that are found.
* `Sound.kept`, `Sound.put`, `Sound.after`, `Sound.stored`, `Sound.showTaken`,
  `Sound.putNumbered`, `Sound.showParts`, `Sound.drain`: The ways in which a step ends.
* `Sound.find_backed`, `Sound.findAll_backed`, `make_made`: What making a buffer keeps.
* `useWord_kept`, `work_kept`: What working on one keeps.
* `Sound.ready`, `step_making`, `step_working`, `step_missing`: A step of a sound machine.
* `outline_kept`, `step_kept`: What a step keeps.
* `sound_nil`, `run_sound`: What a program keeps.
-/

namespace Conduit

open Region
open Buffer (Made)

/-- The answer says that nothing was done. -/
def BufferReply.Refuses : BufferReply → Prop
  | .failed _ | .count 0 | .drained 0 _ | .writability .exhausted => True
  | _ => False

theorem refuses_count {n : Nat} : (BufferReply.count n).Refuses ↔ n = 0 := by
  cases n with
  | zero => exact ⟨fun _ => rfl, fun _ => trivial⟩
  | succ n => exact ⟨False.elim, fun h => nomatch h⟩

namespace Registers

variable {r : Registers} {name : String} {b : Buffer}

/-- The regions that a step may write to: those of the buffer that it works on. -/
def target (r : Registers) (s : BufferStep) : List Region :=
  match s.act with
  | .inl _ => []
  | .inr _ => ((r.get? s.register).map (·.regions)).getD []

/-- What is found is what is stored under the name. -/
theorem find_yields (r : Registers) (name : String) :
    Yields (fun b => r.get? name = some b) (r.find name) := by
  rw [find]
  cases hb : r.get? name with
  | none => exact Yields.error
  | some b => exact Yields.ok rfl

/-! ### What a step keeps -/

/-- All buffers of a machine are backed by its memory. -/
def Sound (r : Registers) : Prop :=
  ∀ name b, r.get? name = some b → b.Backed r.memory

/-- What a step keeps that works on a buffer over certain regions. -/
structure Kept (r : Registers) (own : List Region) (result : BufferReply × Registers) : Prop where
  sound : result.2.Sound
  becomes : r.memory.Becomes own result.2.memory
  atomic : result.1.Refuses → result.2 = r

/-- A step that changes nothing. -/
theorem Sound.kept (hr : r.Sound) (own : List Region) (reply : BufferReply) :
    r.Kept own (reply, r) :=
  ⟨hr, Memory.Becomes.refl _ _, fun _ => rfl⟩

/-- A machine stays sound when a buffer is stored that is backed by what memory becomes. -/
theorem Sound.put (hr : r.Sound) {own : List Region} {m' : Memory}
    (hm : r.memory.Becomes own m') {b' : Buffer} (hb' : b'.Backed m') (name : String) :
    ({ r with memory := m' }.put name b').Sound := by
  intro other c hc
  rw [get?_put] at hc
  rw [memory_put]
  by_cases hother : other = name
  · rw [if_pos hother] at hc
    cases hc
    exact hb'
  · rw [if_neg hother] at hc
    exact (hr other c hc).becomes hm

/-- A step that stores what an operation has made of a buffer. -/
theorem Sound.after (hr : r.Sound) (hb : r.get? name = some b) {b' : Buffer} {m' : Memory}
    (h : b.Step r.memory b' m') {reply : BufferReply}
    (hrefuses : reply.Refuses → b' = b ∧ m' = r.memory) :
    r.Kept b.regions (r.after name reply b' m') where
  sound := hr.put h.becomes h.backed name
  becomes := by
    rw [Registers.after, memory_put]
    exact h.becomes
  atomic := by
    intro hreply
    rcases hrefuses hreply with ⟨rfl, rfl⟩
    exact put_self hb

/-- A step that has been done. -/
theorem Sound.stored (hr : r.Sound) (hb : r.get? name = some b) {b' : Buffer} {m' : Memory}
    (h : b.Step r.memory b' m') {reply : BufferReply} (hdone : ¬ reply.Refuses) :
    r.Kept b.regions (r.after name reply b' m') :=
  hr.after hb h fun hno => absurd hno hdone

/-- A step that takes a buffer out of another one, and may store it. -/
theorem Sound.showTaken (hr : r.Sound) {own : List Region} {taken rest : Buffer} {m' : Memory}
    (hm : r.memory.Becomes own m') (htaken : taken.Backed m') (hrest : rest.Backed m')
    (keep : Option String) : r.Kept own (r.showTaken name taken rest m' keep) := by
  have hput := hr.put hm hrest name
  have hmemory : ({ r with memory := m' }.put name rest).memory = m' := memory_put _ _ _
  cases keep with
  | none => exact ⟨hput, hmemory.symm ▸ hm, fun hrefuses => nomatch hrefuses⟩
  | some target =>
      -- What was taken is stored last, so it is what the name stands for if both names are one.
      have hstored := hput.put (Memory.Becomes.refl [] _)
        (hmemory.symm ▸ htaken : taken.Backed _) target
      refine ⟨hstored, ?_, fun hrefuses => nomatch hrefuses⟩
      change r.memory.Becomes own (({ r with memory := m' }.put name rest).put target taken).memory
      rw [memory_put, hmemory]
      exact hm

/-- Storing several buffers. -/
theorem Sound.putNumbered (hr : r.Sound) (stem : String) {bs : List Buffer}
    (hbs : ∀ b ∈ bs, b.Backed r.memory) :
    (r.putNumbered stem bs).Sound ∧ (r.putNumbered stem bs).memory = r.memory := by
  -- The machine changes from one to the next, but its memory does not, and that backs them all.
  have hfold : ∀ (es : List (Buffer × Nat)) (r' : Registers), r'.Sound →
      r'.memory = r.memory → (∀ e ∈ es, e.1.Backed r.memory) →
      (es.foldl (fun r' e => r'.put (stem ++ toString e.2) e.1) r').Sound ∧
        (es.foldl (fun r' e => r'.put (stem ++ toString e.2) e.1) r').memory = r.memory := by
    intro es
    induction es with
    | nil => exact fun r' hr' hm _ => ⟨hr', hm⟩
    | cons e es ih =>
        intro r' hr' hm hes
        have he : e.1.Backed r'.memory := hm.symm ▸ hes e List.mem_cons_self
        exact ih _ (hr'.put (Memory.Becomes.refl [] _) he _) ((memory_put _ _ _).trans hm)
          fun e' he' => hes e' (List.mem_cons_of_mem e he')
  refine hfold bs.zipIdx r hr rfl fun e he => hbs e.1 ?_
  exact List.fst_mem_of_mem_zipIdx he

/-- A step that shows several buffers, and may store them. -/
theorem Sound.showParts (hr : r.Sound) {own : List Region} {bs : List Buffer}
    (hbs : ∀ c ∈ bs, c.Backed r.memory) (keep : Option String) :
    r.Kept own (r.showParts bs keep) := by
  cases keep with
  | none => exact hr.kept own _
  | some stem =>
      rcases hr.putNumbered stem hbs with ⟨hsound, hmemory⟩
      refine ⟨hsound, ?_, fun hrefuses => nomatch hrefuses⟩
      change r.memory.Becomes own (r.putNumbered stem bs).memory
      rw [hmemory]

/-- A step that moves bytes from one buffer into another. -/
theorem Sound.drain (hr : r.Sound) (hb : r.get? name = some b) {source : String} {src : Buffer}
    (hsrc : r.get? source = some src) :
    r.Kept b.regions
      (.drained (src.drainInto b r.memory).1
          ((src.drainInto b r.memory).2.1.snapshot (src.drainInto b r.memory).2.2.2),
        ({ r with memory := (src.drainInto b r.memory).2.2.2 }.put name
          (src.drainInto b r.memory).2.2.1).put source (src.drainInto b r.memory).2.1) := by
  rcases (hr source src hsrc).drainInto (hr name b hb) with ⟨hstep, hrest, hnone⟩
  have hput := hr.put hstep.becomes hstep.backed name
  have hmemory := memory_put { r with memory := (src.drainInto b r.memory).2.2.2 } name
    (src.drainInto b r.memory).2.2.1
  refine ⟨hput.put (Memory.Becomes.refl [] _) (hmemory.symm ▸ hrest) source,
    ?_, fun hrefuses => ?_⟩
  · rw [memory_put, hmemory]
    exact hstep.becomes
  · -- If nothing was moved, both buffers are stored again as they were.
    have hzero : (src.drainInto b r.memory).1 = 0 := by
      cases hn : (src.drainInto b r.memory).1 with
      | zero => rfl
      | succ n =>
          rw [hn] at hrefuses
          exact nomatch hrefuses
    rw [hnone hzero]
    exact (congrArg (Registers.put · source src) (put_self hb)).trans (put_self hsrc)

/-! ### Making a buffer -/

/-- The buffers that a list of names stands for. -/
theorem Sound.find_backed (hr : r.Sound) (name : String) :
    Yields (fun b : Buffer => b.Backed r.memory) (r.find name) :=
  fun b hb => hr name b (find_yields r name b hb)

theorem Sound.findAll_backed (hr : r.Sound) (names : List String) :
    Yields (fun bs : List Buffer => ∀ b ∈ bs, b.Backed r.memory) (names.mapM r.find) :=
  Yields.mapM fun name _ => hr.find_backed name

theorem make_made (hr : r.Sound) (making : Making) :
    Yields (Made r.memory) (r.make making) := by
  cases making with
  | growable order capacity => exact Yields.ok (Made.growable _ _ _)
  | fixed order capacity => exact Yields.ok (Made.fixed _ _ _)
  | empty => exact Yields.ok (Made.empty _ _)
  | wrap order bytes => exact Yields.ok (Made.wrap _ _ _)
  | copied order bytes => exact Yields.ok (Made.copied _ _ _)
  | wrapParts order parts => exact Yields.ok (Made.wrapParts _ _ _)
  | copyParts order parts => exact Made.copyParts _ _ _
  | wrapOf source =>
      exact (hr.find_backed source).bind fun b hb => Yields.ok (Made.view hb.readableSlice)
  | copyOf source =>
      exact (hr.find_backed source).bind fun b _ => Yields.ok (Made.copied _ _ _)
  | wrapAll sources =>
      exact (hr.findAll_backed sources).bind fun bs hbs =>
        (Made.wrapAll hbs).bind fun c hc => Yields.ok (Made.view hc)
  | copyAll sources =>
      exact (hr.findAll_backed sources).bind fun bs _ => Made.copyAll _ bs
  | text order text => exact Yields.ok (Made.copied _ _ _)
  | factory f order capacity => cases order <;> exact Yields.ok (Made.growable _ _ _)
  | factoryOf f bytes => exact Yields.ok (Made.bufferOf _ _ _)
  | duplicate source => exact (hr.find_backed source).bind fun b hb => Yields.ok (Made.view hb)
  | withOrder source order =>
      exact (hr.find_backed source).bind fun b hb =>
        Yields.ok (Made.view ⟨⟨hb.valid.reader_le_writer, hb.valid.writer_le_capacity,
          hb.valid.capacity_le_max⟩, hb.fits⟩)
  | readableSlice source =>
      exact (hr.find_backed source).bind fun b hb => Yields.ok (Made.view hb.readableSlice)
  | slice source index length =>
      exact (hr.find_backed source).bind fun b hb =>
        (hb.slice index length).bind fun c hc => Yields.ok (Made.view hc.1)
  | copy source index length =>
      exact (hr.find_backed source).bind fun b hb =>
        fun c hc => (hb.copy index length c hc).1

/-! ### Working on a buffer -/

theorem useWord_kept (hr : r.Sound) (hb : r.get? name = some b) (numeral : Numeral)
    (use : WordUse) :
    Yields (fun result : BufferReply × Buffer × Memory =>
        r.Kept b.regions (r.after name result.1 result.2.1 result.2.2))
      (useWord b r.memory numeral use) := by
  have hbacked := hr name b hb
  -- A number is an answer, and no answer with a number says that nothing was done.
  have hshown : ∀ v : Word numeral.width, ¬ (showWord numeral v).Refuses := by
    intro v
    rw [showWord]
    cases numeral.reading <;> exact id
  cases use with
  | get index =>
      exact Yields.bind (P := fun _ => True) (fun _ _ => trivial) fun v _ =>
        Yields.ok (hr.stored hb hbacked.refl (hshown v))
  | set index value =>
      exact (hbacked.setWord index (bitsOf numeral value)).bind fun m' hset =>
        Yields.ok (hr.stored hb hset.1 id)
  | read =>
      exact Yields.ok (hr.stored hb (hbacked.readWord numeral.width) (hshown _))
  | tryRead =>
      exact (hbacked.tryReadWord numeral.width).bind fun result hread =>
        Yields.ok (hr.stored hb hread.1 (hshown _))
  | write value =>
      rcases hbacked.write (Word.encode b.order (bitsOf numeral value)) with ⟨hstep, -, hnone⟩
      refine Yields.ok (hr.after hb hstep fun hno => ?_)
      exact Prod.mk.inj (hnone (refuses_count.mp hno))
  | writeAhead value =>
      exact (hbacked.writeWordAhead (bitsOf numeral value)).bind fun result hahead =>
        Yields.ok (hr.stored hb hahead.1 id)

/-- Whatever is done with a buffer, a step that is not refused keeps what steps keep. -/
theorem work_kept (hr : r.Sound) (hb : r.get? name = some b) (working : Working) :
    Yields (fun result => r.Kept b.regions result) (r.work name b working) := by
  have hbacked := hr name b hb
  have hread : ∀ reply, r.Kept b.regions (reply, r) := hr.kept b.regions
  cases working with
  | readBytes length keep =>
      exact (hbacked.readBytes length).bind fun result h =>
        Yields.ok (hr.showTaken h.2.1.becomes h.1 h.2.1.backed keep)
  | readSlice length keep =>
      exact (hbacked.readSlice length).bind fun result h =>
        Yields.ok (hr.showTaken h.2.1.becomes h.1 h.2.1.backed keep)
  | decompose index length keep =>
      exact (hbacked.decompose index length).bind fun parts h =>
        Yields.ok (hr.showParts h.1 keep)
  | components keep =>
      exact Yields.ok (hr.showParts (fun _ hc => hbacked.components hc) keep)
  | drainFrom source =>
      exact (r.find_yields source).bind fun src hsrc => Yields.ok (hr.drain hb hsrc)
  | compare _ | getBytes _ _ | hexDumpOf _ _ =>
      exact Yields.bind (P := fun _ => True) (fun _ _ => trivial) fun _ _ =>
        Yields.ok (hread _)
  | word numeral use =>
      exact (useWord_kept hr hb numeral use).bind fun result h => Yields.ok h
  | setReader index =>
      exact (hbacked.setReader index).bind fun c h =>
        Yields.ok (hr.stored hb h id)
  | setWriter index =>
      exact (hbacked.setWriter index).bind fun c h =>
        Yields.ok (hr.stored hb h id)
  | setCursors reader writer =>
      exact (hbacked.setCursors reader writer).bind fun c h =>
        Yields.ok (hr.stored hb h id)
  | clear => exact Yields.ok (hr.stored hb hbacked.clear id)
  | markReader =>
      exact Yields.ok (hr.stored hb hbacked.markReader id)
  | markWriter =>
      exact Yields.ok (hr.stored hb hbacked.markWriter id)
  | resetReader =>
      exact (hbacked.setReader b.readerMark).bind fun c h =>
        Yields.ok (hr.stored hb h id)
  | resetWriter =>
      exact (hbacked.setWriter b.writerMark).bind fun c h =>
        Yields.ok (hr.stored hb h id)
  | discardReadBytes =>
      exact Yields.ok (hr.stored hb hbacked.discardReadBytes id)
  | ensureWritableBytes length =>
      exact (hbacked.ensureWritableBytes length).bind fun result h =>
        Yields.ok (hr.stored hb h id)
  | ensureWritable length force =>
      -- Of its four answers only the one that there is no room says that nothing was done.
      rcases hbacked.ensureWritable length force with ⟨v, rs, m', hensure, hstep, hv⟩
      rw [work, hensure]
      refine Yields.ok (hr.after hb hstep fun hno => ?_)
      cases v with
      | exhausted => exact ⟨by rw [hv.1], hv.2.1⟩
      | sufficient | grew | grewToMax => exact False.elim hno
  | grownCapacity target => exact Yields.ok (hread _)
  | setBytes index bytes =>
      exact (hbacked.setBytes index bytes).bind fun m' h =>
        Yields.ok (hr.stored hb h.1 id)
  | setZero index length =>
      rcases hbacked.setZero index length with ⟨hstep, hnone⟩
      exact Yields.ok (hr.after hb hstep fun hno =>
        ⟨rfl, hnone (refuses_count.mp hno)⟩)
  | readInto length =>
      exact (hbacked.readInto length).bind fun result h =>
        Yields.ok (hr.stored hb h.1 id)
  | skip length =>
      exact (hbacked.skip length).bind fun c h =>
        Yields.ok (hr.stored hb h.1 id)
  | write bytes =>
      rcases hbacked.write bytes with ⟨hstep, -, hnone⟩
      exact Yields.ok (hr.after hb hstep fun hno =>
        Prod.mk.inj (hnone (refuses_count.mp hno)))
  | writeZero length =>
      rcases hbacked.writeZero length with ⟨hstep, hnone⟩
      exact Yields.ok (hr.after hb hstep fun hno =>
        Prod.mk.inj (hnone (refuses_count.mp hno)))
  | writeZeroAhead length =>
      rcases hbacked.writeZeroAhead length with ⟨hstep, hnone⟩
      exact Yields.ok (hr.after hb hstep fun hno =>
        Prod.mk.inj (hnone (refuses_count.mp hno)))
  | writeAhead bytes =>
      exact (hbacked.writeAhead bytes).bind fun result h =>
        Yields.ok (hr.stored hb h.1 id)
  | _ => exact Yields.ok (hread _)

/-! ### Steps and programs -/

/-- The buffers of a sound machine rest in its memory. -/
theorem Sound.ready (hr : r.Sound) (s : BufferStep) : r.Ready s :=
  fun name _ b hb => (hr name b hb).rests

/-- A step that makes a buffer. -/
theorem step_making (hr : r.Sound) (making : Making) (register shown : String) :
    r.step ⟨register, shown, .inl making⟩ =
      match r.make making with
      | .ok (b, m) => r.after register .done b m
      | .error cause => (.failed cause, r) := by
  rw [step_eq (hr.ready _), outline_making]
  cases r.make making <;> rfl

/-- A step that works on a buffer that is there. -/
theorem step_working (hr : r.Sound) {register shown : String} (hb : r.get? register = some b)
    (working : Working) :
    r.step ⟨register, shown, .inr working⟩ =
      match r.work register b working with
      | .ok result => result
      | .error cause => (.failed cause, r) := by
  rw [step_eq (hr.ready _), outline_working, find_eq hb]
  rfl

/-- There is nothing to work on under a name without a buffer. -/
theorem step_missing (hr : r.Sound) {register shown : String} (hb : r.get? register = none)
    (working : Working) :
    r.step ⟨register, shown, .inr working⟩ =
      (.failed (.noSuchElement (.named register)), r) := by
  rw [step_eq (hr.ready _), outline_working, find, hb]
  rfl

/-- What a step keeps that does not fail. -/
theorem outline_kept (hr : r.Sound) (s : BufferStep) :
    Yields (r.Kept (r.target s)) (r.outline s) := by
  rcases s with ⟨register, shown, making | working⟩
  · -- A buffer is made, and stored under the name.
    exact (make_made hr making).bind fun made hmade =>
      Yields.ok ⟨hr.put hmade.2 hmade.1 register, hmade.2, fun hno => nomatch hno⟩
  · refine (r.find_yields register).bind fun b hb => ?_
    have htarget : r.target ⟨register, shown, .inr working⟩ = b.regions := by
      rw [target]
      dsimp only
      rw [hb]
      rfl
    rw [htarget]
    exact work_kept hr hb working

/-- What every step keeps. -/
theorem step_kept (hr : r.Sound) (s : BufferStep) : r.Kept (r.target s) (r.step s) := by
  rw [step_eq (hr.ready s)]
  cases hstep : r.outline s with
  | error cause => exact hr.kept _ _
  | ok result => exact outline_kept hr s result hstep

/-- A machine without buffers. -/
theorem sound_nil : Sound {} := fun _ _ hb => nomatch hb

/-- Whatever a program does, all buffers stay backed. -/
theorem run_sound (hr : r.Sound) (steps : List BufferStep) : (r.run steps).2.Sound := by
  induction steps generalizing r with
  | nil => exact hr
  | cons s steps ih => exact ih (step_kept hr s).sound

end Registers

end Conduit
