import Conduit.Proofs.Buffer.Alike
import Conduit.Proofs.Script.Bounds

/-!
# Programs in Parallel

One program run by two machines. Their memories mirror each other, and under each of
certain names both have alike buffers. A step that reads no buffer but those gives the
same answer on both sides, and leaves the machines as they were to each other.

If the buffers are cut into regions in the same places, answers are the same in every
detail. Otherwise they are the same but for whether a buffer is laid over several
regions, and the steps that ask for the parts of a buffer are left out.

## Main definitions

* `BufferReply.blur`, `BufferReply.Like`: Answers that say the same.
* `BufferStep.Uniform`: The step does not ask for the parts of a buffer.
* `Registers.AlikeBy`, `Registers.Alike`: Machines with alike buffers.

## Theorems

* `Like.of_eq`, `Alike.rests`: Answers, and buffers that rest in memory on both sides.
* `AlikeBy.alike`, `AlikeBy.told`, `AlikeBy.put`, `AlikeBy.after`, `AlikeBy.moved`,
  `AlikeBy.showTaken`, `AlikeBy.putNumbered`, `AlikeBy.showParts`, `AlikeBy.drain`,
  `AlikeBy.matched`: The ways in which a step ends, on both sides.
* `AlikeBy.find`, `AlikeBy.findAll`: Buffers that are found.
* `make_agree`, `useWord_agree`, `work_agree`: Making a buffer, and working on one.
* `AlikeBy.ready`, `Alike.shown`: What is read of alike machines, and shown of them.
* `step_twin`, `run_twin`: Steps and programs.
-/

namespace Conduit

open Region List
open Buffer (Paired Matched)

/-- An answer, but for whether a buffer is laid over several regions. -/
def BufferReply.blur : BufferReply → BufferReply
  | .snapshots list => .snapshots (list.map Snapshot.blur)
  | .drained n source => .drained n source.blur
  | reply => reply

/-- Two answers that say the same; if `cut`, in every detail. -/
def BufferReply.Like (cut : Prop) (x y : BufferReply) : Prop :=
  y.blur = x.blur ∧ (cut → y = x)

theorem BufferReply.Like.of_eq {cut : Prop} {x y : BufferReply} (h : y = x) : x.Like cut y :=
  ⟨congrArg blur h, fun _ => h⟩

/-- What is laid over partners of bytes that are there is there itself. -/
theorem Buffer.Alike.rests {cut : Prop} {R : Pairing} {m n : Memory} {b c : Buffer}
    (h : Buffer.Alike cut R b c) (hm : m.Mirrors R n) (hb : b.Valid) : c.Rests n :=
  ⟨h.valid hb, fun _ hr hpos => hm.fits h.laid.places hr hpos⟩

/-- The step does not ask for the parts of a buffer. -/
def BufferStep.Uniform (s : BufferStep) : Prop :=
  match s.act with
  | .inr (.decompose ..) | .inr (.components _) | .inr .debug => False
  | _ => True

namespace Registers

/-- Memories that mirror each other through a pairing, and alike buffers under certain
    names. -/
structure AlikeBy (cut : Prop) (N : String → Prop) (R : Pairing) (r q : Registers) : Prop where
  mirrors : r.memory.Mirrors R q.memory
  buffers : ∀ name, N name → Option.Rel (Buffer.Alike cut R) (r.get? name) (q.get? name)

/-- Machines with alike buffers under certain names. -/
def Alike (cut : Prop) (N : String → Prop) (r q : Registers) : Prop :=
  ∃ R, AlikeBy cut N R r q

/-- Answers that say the same, and machines with alike buffers. -/
def Twin (cut : Prop) (N : String → Prop) (x y : BufferReply × Registers) : Prop :=
  x.1.Like cut y.1 ∧ Alike cut N x.2 y.2

variable {cut : Prop} {N : String → Prop} {R R' : Pairing} {r q : Registers} {name : String}
  {b c : Buffer}

namespace AlikeBy

theorem alike (h : AlikeBy cut N R r q) : Alike cut N r q := ⟨R, h⟩

/-- A step that changes nothing. -/
theorem told (h : AlikeBy cut N R r q) {x y : BufferReply} (hreply : y = x) :
    Twin cut N (x, r) (y, q) :=
  ⟨.of_eq hreply, h.alike⟩

/-- Storing alike buffers under the same name. -/
theorem put (h : AlikeBy cut N R r q) (hR : Subrelation R R') {m n : Memory}
    (hm : m.Mirrors R' n) (hb : Buffer.Alike cut R' b c) (name : String) :
    AlikeBy cut N R' ({ r with memory := m }.put name b) ({ q with memory := n }.put name c) where
  mirrors := by
    rw [memory_put, memory_put]
    exact hm
  buffers := by
    intro other hother
    rw [get?_put, get?_put]
    by_cases hname : other = name
    · rw [if_pos hname, if_pos hname]
      exact Option.Rel.some hb
    · rw [if_neg hname, if_neg hname]
      change Option.Rel (Buffer.Alike cut R') (r.get? other) (q.get? other)
      have hsame := h.buffers other hother
      generalize r.get? other = x at hsame ⊢
      generalize q.get? other = y at hsame ⊢
      cases hsame with
      | none => exact Option.Rel.none
      | some hsame => exact Option.Rel.some (hsame.mono hR)

/-- A step that stores what an operation has made of a buffer. -/
theorem after (h : AlikeBy cut N R r q) {x y : Buffer × Memory} (hxy : Paired cut R x y)
    (name : String) {reply reply' : BufferReply} (hreply : reply' = reply) :
    Twin cut N (r.after name reply x.1 x.2) (q.after name reply' y.1 y.2) := by
  rcases hxy with ⟨R', hR, hm, hb⟩
  exact ⟨.of_eq hreply, (h.put hR hm hb name).alike⟩

/-- The same, for a buffer whose bytes have not been touched. -/
theorem moved (h : AlikeBy cut N R r q) (hbc : Buffer.Alike cut R b c) (name : String)
    {reply reply' : BufferReply} (hreply : reply' = reply) :
    Twin cut N (r.after name reply b r.memory) (q.after name reply' c q.memory) :=
  h.after (hbc.here h.mirrors) name hreply

/-- A step that takes a buffer out of another one, and may store it. -/
theorem showTaken (h : AlikeBy cut N R r q) (hR : Subrelation R R') {m n : Memory}
    (hm : m.Mirrors R' n) {taken taken' rest rest' : Buffer}
    (htaken : Buffer.Alike cut R' taken taken') (hrest : Buffer.Alike cut R' rest rest')
    (name : String) (keep : Option String) :
    Twin cut N (r.showTaken name taken rest m keep) (q.showTaken name taken' rest' n keep) := by
  have hput := h.put hR hm hrest name
  have hshown : BufferReply.excerpt (Excerpt.ofBytes (taken'.content n)) =
      .excerpt (Excerpt.ofBytes (taken.content m)) := by rw [htaken.content hm]
  cases keep with
  | none => exact hput.told hshown
  | some target =>
      exact ⟨.of_eq hshown, (hput.put (fun hab => hab) hput.mirrors htaken target).alike⟩

/-- Storing several buffers. -/
theorem putNumbered (h : AlikeBy cut N R r q) (stem : String) {bs cs : List Buffer}
    (hbs : Forall₂ (Buffer.Alike cut R) bs cs) :
    AlikeBy cut N R (r.putNumbered stem bs) (q.putNumbered stem cs) := by
  have hfold : ∀ (k : Nat) (r q : Registers), AlikeBy cut N R r q → AlikeBy cut N R
      ((bs.zipIdx k).foldl (fun r e => r.put (stem ++ toString e.2) e.1) r)
      ((cs.zipIdx k).foldl (fun r e => r.put (stem ++ toString e.2) e.1) q) := by
    induction hbs with
    | nil => exact fun _ _ _ h => h
    | cons hfirst _ ih =>
        exact fun k r q h => ih (k + 1) _ _ (h.put (fun hab => hab) h.mirrors hfirst _)
  exact hfold 0 r q h

/-- A step that shows the parts of a buffer, and may store them. -/
theorem showParts (h : AlikeBy cut N R r q) (hcut : cut) {bs cs : List Buffer}
    (hbs : Forall₂ (Buffer.Alike cut R) bs cs) (keep : Option String) :
    Twin cut N (r.showParts bs keep) (q.showParts cs keep) := by
  -- A snapshot of a part says where it is cut, so this needs regions that are cut alike.
  have hshown : cs.map (·.snapshot q.memory) = bs.map (·.snapshot r.memory) := by
    induction hbs with
    | nil => rfl
    | cons hfirst _ ih =>
        rw [List.map_cons, List.map_cons, hfirst.snapshot h.mirrors hcut, ih]
  cases keep with
  | none => exact h.told (congrArg BufferReply.snapshots hshown)
  | some stem =>
      exact ⟨.of_eq (congrArg BufferReply.snapshots hshown), (h.putNumbered stem hbs).alike⟩

/-- A step that moves bytes from one buffer into another. -/
theorem drain (h : AlikeBy cut N R r q) (hbc : Buffer.Alike cut R b c) {src dst : Buffer}
    (hsrc : Buffer.Alike cut R src dst) (name source : String) :
    Twin cut N
      (.drained (src.drainInto b r.memory).1
          ((src.drainInto b r.memory).2.1.snapshot (src.drainInto b r.memory).2.2.2),
        ({ r with memory := (src.drainInto b r.memory).2.2.2 }.put name
          (src.drainInto b r.memory).2.2.1).put source (src.drainInto b r.memory).2.1)
      (.drained (dst.drainInto c q.memory).1
          ((dst.drainInto c q.memory).2.1.snapshot (dst.drainInto c q.memory).2.2.2),
        ({ q with memory := (dst.drainInto c q.memory).2.2.2 }.put name
          (dst.drainInto c q.memory).2.2.1).put source (dst.drainInto c q.memory).2.1) := by
  rcases hsrc.drainInto hbc h.mirrors with ⟨hcount, R', hR, hm, hrest, hfilled⟩
  have hput := h.put hR hm hfilled name
  refine ⟨⟨?_, fun hcut => ?_⟩, (hput.put (fun hab => hab) hput.mirrors hrest source).alike⟩
  · rw [BufferReply.blur, BufferReply.blur, hcount, hrest.blur_snapshot hm]
  · rw [hcount, hrest.snapshot hm hcut]

/-- Both machines find alike buffers under a name, or none. -/
theorem find (h : AlikeBy cut N R r q) (hr : r.Sound) (hname : N name) :
    Agree (fun b c => Buffer.Alike cut R b c ∧ b.Backed r.memory) (r.find name) (q.find name) := by
  have hsame := h.buffers name hname
  have hbacked := hr name
  rw [Registers.find, Registers.find]
  generalize r.get? name = x at hsame hbacked ⊢
  generalize q.get? name = y at hsame ⊢
  cases hsame with
  | none => exact Agree.error _
  | some hbc => exact Agree.ok ⟨hbc, hbacked _ rfl⟩

theorem findAll (h : AlikeBy cut N R r q) (hr : r.Sound) {names : List String}
    (hnames : ∀ name ∈ names, N name) :
    Agree (Forall₂ (Buffer.Alike cut R)) (names.mapM r.find) (names.mapM q.find) :=
  Agree.mapM fun name hname => (h.find hr (hnames name hname)).imp fun _ _ hbc => hbc.1

end AlikeBy

/-! ### Making a buffer -/

/-- A buffer is made on both sides, or neither. -/
theorem make_agree (hr : r.Sound) (h : AlikeBy cut N R r q) (making : Making)
    (hsources : ∀ name ∈ making.sources, N name) :
    Agree (Paired cut R) (r.make making) (q.make making) := by
  have hm := h.mirrors
  -- Whatever is read is found alike, and whatever is made of nothing lies in new cells.
  have hone : ∀ {source}, making.sources = [source] →
      Agree (fun b c => Buffer.Alike cut R b c ∧ b.Backed r.memory) (r.find source)
        (q.find source) :=
    fun hsource => h.find hr (hsources _ (hsource ▸ List.mem_singleton_self _))
  cases making with
  | growable order capacity => exact Agree.ok (Paired.growable hm _ _)
  | fixed order capacity => exact Agree.ok (Paired.fixed hm _ _)
  | empty => exact Agree.ok (Paired.empty hm _)
  | wrap order bytes => exact Agree.ok (Paired.wrap hm _ _)
  | copied order bytes => exact Agree.ok (Paired.copied hm _ _)
  | wrapParts order parts => exact Agree.ok (Paired.wrapParts hm _ _)
  | copyParts order parts => exact Paired.copyParts hm _ _
  | wrapOf source =>
      exact (hone rfl).bind fun b c hbc => Agree.ok (hbc.1.readableSlice.here hm)
  | copyOf source =>
      refine (hone rfl).bind fun b c hbc => Agree.ok ?_
      rw [Buffer.copyOf, Buffer.copyOf, hbc.1.order, hbc.1.content hm]
      exact Paired.copied hm _ _
  | wrapAll sources =>
      exact (h.findAll hr hsources).bind fun bs cs hbs =>
        (Buffer.Alike.wrapAll hbs).bind fun b c hbc => Agree.ok (hbc.here hm)
  | copyAll sources =>
      exact (h.findAll hr hsources).bind fun bs cs hbs => Paired.copyAll hm hbs
  | text order text => exact Agree.ok (Paired.copied hm _ _)
  | factory f order capacity =>
      cases order with
      | none => exact Agree.ok (Paired.growable hm _ _)
      | some order => exact Agree.ok (Paired.growable hm _ _)
  | factoryOf f bytes => exact Agree.ok (Paired.bufferOf hm _ _)
  | duplicate source => exact (hone rfl).bind fun b c hbc => Agree.ok (hbc.1.here hm)
  | withOrder source order =>
      exact (hone rfl).bind fun b c hbc => Agree.ok ((hbc.1.withOrder order).here hm)
  | readableSlice source =>
      exact (hone rfl).bind fun b c hbc => Agree.ok (hbc.1.readableSlice.here hm)
  | slice source index length =>
      exact (hone rfl).bind fun b c hbc =>
        (hbc.1.slice index length).bind fun b c hbc => Agree.ok (hbc.here hm)
  | copy source index length =>
      exact (hone rfl).bind fun b c hbc => hbc.1.copy hm index length

/-! ### Working on a buffer -/

/-- What an operation gives that answers and changes a buffer. -/
theorem AlikeBy.matched {α : Type} (h : AlikeBy cut N R r q) {x y : α × Buffer × Memory}
    (hxy : Matched cut R x y) (name : String) (answer : α → BufferReply) :
    Twin cut N (r.after name (answer x.1) x.2.1 x.2.2) (q.after name (answer y.1) y.2.1 y.2.2) :=
  h.after hxy.2 name (congrArg answer hxy.1.symm)

theorem useWord_agree (h : Buffer.Alike cut R b c) {m n : Memory} (hm : m.Mirrors R n)
    (numeral : Numeral) (use : WordUse) :
    Agree (Matched cut R) (useWord b m numeral use) (useWord c n numeral use) := by
  cases use with
  | get index =>
      rw [useWord, useWord, h.getWord hm]
      exact (Agree.same _).bind fun v v' hv =>
        Agree.ok ⟨congrArg (showWord numeral) hv, h.here hm⟩
  | set index value =>
      exact (h.setWord hm index (bitsOf numeral value)).bind fun m' n' hm' =>
        Agree.ok ⟨rfl, h.here hm'⟩
  | read =>
      rcases h.readWord hm numeral.width with ⟨hv, hread⟩
      exact Agree.ok ⟨congrArg (showWord numeral) hv, hread.here hm⟩
  | tryRead =>
      exact (h.tryReadWord hm numeral.width).bind fun x y hxy =>
        Agree.ok ⟨congrArg (showWord numeral) hxy.1, hxy.2.here hm⟩
  | write value =>
      rcases h.writeWord hm (bitsOf numeral value) with ⟨hcount, hwritten⟩
      exact Agree.ok ⟨congrArg BufferReply.count hcount, hwritten⟩
  | writeAhead value =>
      exact (h.writeWordAhead hm (bitsOf numeral value)).bind fun x y hxy => Agree.ok ⟨rfl, hxy⟩

/-- Whatever is done with alike buffers gives the same answer and leaves alike machines. -/
theorem work_agree (hr : r.Sound) (h : AlikeBy cut N R r q) (hbc : Buffer.Alike cut R b c)
    (hb : b.Valid) (working : Working) (hsources : ∀ name ∈ working.sources, N name)
    (huniform : cut ∨ BufferStep.Uniform ⟨name, name, .inr working⟩) :
    Agree (Twin cut N) (r.work name b working) (q.work name c working) := by
  have hm := h.mirrors
  cases working with
  | readBytes length keep =>
      refine (hbc.readBytes hm length).bind fun x y hxy => Agree.ok ?_
      rcases hxy with ⟨R', hR, hm', htaken, hrest⟩
      exact h.showTaken hR hm' htaken hrest name keep
  | readSlice length keep =>
      exact (hbc.readSlice length).bind fun x y hxy =>
        Agree.ok (h.showTaken (fun hab => hab) hm hxy.1 hxy.2 name keep)
  | decompose index length keep =>
      have hcut := huniform.resolve_right id
      exact (hbc.decompose hcut index length).bind fun bs cs hbs =>
        Agree.ok (h.showParts hcut hbs keep)
  | components keep =>
      have hcut := huniform.resolve_right id
      exact Agree.ok (h.showParts hcut (hbc.components hcut) keep)
  | drainFrom source =>
      exact (h.find hr (hsources source (List.mem_singleton_self _))).bind fun src dst hsrc =>
        Agree.ok (h.drain hbc hsrc.1 name source)
  | compare other =>
      refine (h.find hr (hsources other (List.mem_singleton_self _))).bind fun o p hop => ?_
      -- Equality is told of valid buffers, and the other one is backed where it was found.
      have hequals := hbc.equals hop.1 hm hb hop.2.valid
      refine Agree.ok (h.told ?_)
      rw [hbc.compareTo hop.1 hm, hop.1.compareTo hbc hm, hequals, hbc.hashCode hm,
        hop.1.hashCode hm]
  | word numeral use =>
      exact (useWord_agree hbc hm numeral use).bind fun x y hxy =>
        Agree.ok (h.after hxy.2 name hxy.1.symm)
  | setReader index =>
      exact (hbc.setReader index).bind fun b c hbc => Agree.ok (h.moved hbc name rfl)
  | setWriter index =>
      exact (hbc.setWriter index).bind fun b c hbc => Agree.ok (h.moved hbc name rfl)
  | setCursors reader writer =>
      exact (hbc.setCursors reader writer).bind fun b c hbc => Agree.ok (h.moved hbc name rfl)
  | clear => exact Agree.ok (h.moved hbc.clear name rfl)
  | markReader => exact Agree.ok (h.moved hbc.markReader name rfl)
  | markWriter => exact Agree.ok (h.moved hbc.markWriter name rfl)
  | resetReader =>
      exact hbc.resetReader.bind fun b c hbc => Agree.ok (h.moved hbc name rfl)
  | resetWriter =>
      exact hbc.resetWriter.bind fun b c hbc => Agree.ok (h.moved hbc name rfl)
  | discardReadBytes => exact Agree.ok (h.after (hbc.discardReadBytes hm) name rfl)
  | ensureWritableBytes length =>
      exact (hbc.ensureWritableBytes hm length).bind fun x y hxy => Agree.ok (h.after hxy name rfl)
  | ensureWritable length force =>
      exact Agree.ok (h.matched (hbc.ensureWritable hm length force) name .writability)
  | grownCapacity target =>
      exact Agree.ok (h.told (congrArg BufferReply.count (hbc.grownCapacity target)))
  | getBytes index length =>
      rw [work, work, hbc.getBytes hm]
      exact (Agree.same _).bind fun x y hxy =>
        Agree.ok (h.told (congrArg BufferReply.bytes hxy.symm))
  | setBytes index bytes =>
      exact (hbc.setBytes hm index bytes).bind fun m' n' hm' =>
        Agree.ok (h.after (hbc.here hm') name rfl)
  | setZero index length =>
      rcases hbc.setZero hm index length with ⟨hcount, hm'⟩
      exact Agree.ok (h.after (hbc.here hm') name (congrArg BufferReply.count hcount.symm))
  | readInto length =>
      exact (hbc.readInto hm length).bind fun x y hxy =>
        Agree.ok (h.moved hxy.2 name (congrArg BufferReply.bytes hxy.1.symm))
  | skip length =>
      exact (hbc.skip length).bind fun b c hbc => Agree.ok (h.moved hbc name rfl)
  | write bytes => exact Agree.ok (h.matched (hbc.write hm bytes) name .count)
  | writeZero length => exact Agree.ok (h.matched (hbc.writeZero hm length) name .count)
  | writeZeroAhead length => exact Agree.ok (h.matched (hbc.writeZeroAhead hm length) name .count)
  | writeAhead bytes =>
      exact (hbc.writeAhead hm bytes).bind fun x y hxy => Agree.ok (h.after hxy name rfl)
  | indexOf start stop value =>
      exact Agree.ok (h.told (congrArg BufferReply.found (hbc.indexOf hm start stop value)))
  | bytesBefore value =>
      exact Agree.ok (h.told (congrArg BufferReply.found (hbc.bytesBefore hm value)))
  | indexWithin start stop low high =>
      rw [work, work, hbc.indexOfBy hm]
      exact Agree.ok (h.told rfl)
  | bytesBeforeWithin low high =>
      rw [work, work, hbc.bytesBeforeBy hm]
      exact Agree.ok (h.told rfl)
  | indexWhere start stop answer =>
      rw [work, work, hbc.indexOfBy hm]
      exact Agree.ok (h.told rfl)
  | bytesBeforeWhere answer =>
      rw [work, work, hbc.bytesBeforeBy hm]
      exact Agree.ok (h.told rfl)
  | toText => exact Agree.ok (h.told (congrArg BufferReply.text (hbc.toText hm)))
  | content => exact Agree.ok (h.told (congrArg BufferReply.bytes (hbc.content hm)))
  | hexDump => exact Agree.ok (h.told (congrArg BufferReply.text (hbc.hexDump hm)))
  | hexDumpOf index length =>
      rw [work, work, hbc.hexDumpOf hm]
      exact (Agree.same _).bind fun x y hxy =>
        Agree.ok (h.told (congrArg BufferReply.text hxy.symm))
  | hash => exact Agree.ok (h.told (congrArg BufferReply.hash (hbc.hashCode hm)))
  | info =>
      refine Agree.ok (h.told ?_)
      rw [hbc.hashCode hm, hbc.readableBytes, hbc.writableBytes, hbc.maxWritableBytes,
        hbc.isReadable, hbc.isWritable]
  | debug =>
      exact Agree.ok (h.told (congrArg BufferReply.text (hbc.debug (huniform.resolve_right id))))

/-! ### Steps and programs -/

/-- The buffers that a step reads rest in memory on one side if they do so on the other. -/
theorem AlikeBy.ready (h : AlikeBy cut N R r q) (hr : r.Sound) {s : BufferStep}
    (hreads : ∀ name ∈ s.reads, N name) : q.Ready s := by
  intro name hname c hc
  have hsame := h.buffers name (hreads name hname)
  have hvalid := fun b hb => (hr name b hb).valid
  rw [hc] at hsame
  generalize r.get? name = x at hsame hvalid
  cases hsame with
  | some hbc => exact hbc.rests h.mirrors (hvalid _ rfl)

/-- A step that reads alike buffers gives the same answer and leaves alike machines. -/
theorem step_twin (hr : r.Sound) (h : Alike cut N r q) (s : BufferStep)
    (hreads : ∀ name ∈ s.reads, N name) (huniform : cut ∨ s.Uniform) :
    Twin cut N (r.step s) (q.step s) := by
  rcases h with ⟨R, h⟩
  -- Both machines are ready, so the step is what its outline says on either side.
  have houtline : Agree (Twin cut N) (r.outline s) (q.outline s) := by
    rcases s with ⟨register, shown, making | working⟩
    · exact (make_agree hr h making fun name hname =>
        hreads name (List.mem_cons_of_mem _ hname)).bind fun made made' hmade =>
          Agree.ok (h.after hmade register rfl)
    · exact (h.find hr (hreads register (List.mem_cons_of_mem _ List.mem_cons_self))).bind
        fun b c hbc => work_agree hr h hbc.1 hbc.2.valid working
          (fun name hname => hreads name (List.mem_cons_of_mem _ (List.mem_cons_of_mem _ hname)))
          huniform
  rw [step_eq (hr.ready s), step_eq (h.ready hr hreads)]
  generalize r.outline s = x at houtline ⊢
  generalize q.outline s = y at houtline ⊢
  cases houtline with
  | ok hxy => exact hxy
  | error cause => exact h.told rfl

/-- What is shown of alike buffers is the same. -/
theorem Alike.shown (h : Alike cut N r q) (name : String) (hname : N name) :
    (q.snapshot? name).map Snapshot.blur = (r.snapshot? name).map Snapshot.blur ∧
      (cut → q.snapshot? name = r.snapshot? name) := by
  rcases h with ⟨R, h⟩
  have hsame := h.buffers name hname
  rw [snapshot?, snapshot?]
  generalize r.get? name = x at hsame ⊢
  generalize q.get? name = y at hsame ⊢
  cases hsame with
  | none => exact ⟨rfl, fun _ => rfl⟩
  | some hbc =>
      exact ⟨congrArg some (hbc.blur_snapshot h.mirrors),
        fun hcut => congrArg some (hbc.snapshot h.mirrors hcut)⟩

/-- What a program shows after a step, but for whether buffers are laid over several regions. -/
def blurred (shown : BufferReply × Option Snapshot) : BufferReply × Option Snapshot :=
  (shown.1.blur, shown.2.map Snapshot.blur)

/-- A program without a question for parts shows the same on alike machines. -/
theorem run_twin (hr : r.Sound) (h : Alike cut (fun _ => True) r q) (steps : List BufferStep)
    (huniform : ∀ s ∈ steps, s.Uniform) :
    (q.run steps).1.map blurred = (r.run steps).1.map blurred ∧
      Alike cut (fun _ => True) (r.run steps).2 (q.run steps).2 := by
  induction steps generalizing r q with
  | nil => exact ⟨rfl, h⟩
  | cons s steps ih =>
      have hstep := step_twin hr h s (fun _ _ => trivial)
        (Or.inr (huniform s List.mem_cons_self))
      rcases ih (step_kept hr s).sound hstep.2
        fun t ht => huniform t (List.mem_cons_of_mem s ht) with ⟨hrest, hend⟩
      refine ⟨?_, hend⟩
      have hshown := (hstep.2.shown s.shown trivial).1
      rw [run, run, List.map_cons, List.map_cons]
      exact congrArg₂ List.cons (Prod.ext hstep.1.1 hshown) hrest

end Registers

end Conduit
