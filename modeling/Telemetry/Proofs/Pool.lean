import Mathlib.Data.List.Nodup
import Telemetry.Pool
import Telemetry.Proofs.Entries

/-!
# Buffers have one place at a time

A buffer is idle, or one holder has it, or it is gone for good.  What keeps
them apart is a condition on a pool and on the buffers that are out of it, and
it holds on under everything that can happen to a buffer: taking it, changing
what is in it, and giving it back.
-/

namespace Telemetry

/-- Nothing is in a buffer. -/
def Buffer.IsEmpty (buffer : Buffer) : Prop :=
  buffer.content = [] ∧ buffer.zipped = []

theorem Buffer.isEmpty_reset (buffer : Buffer) : buffer.reset.IsEmpty :=
  ⟨rfl, rfl⟩

@[simp] theorem Buffer.number_reset (buffer : Buffer) : buffer.reset.number = buffer.number :=
  rfl

namespace Pool

/-! ## A pool and the buffers out of it -/

/-- The numbers of the idle buffers and of those that are out. -/
def numbers (pool : Pool) (out : List Buffer) : List Nat :=
  pool.idle.map Buffer.number ++ out.map Buffer.number

/-- A pool and the buffers that were taken from it are in order: no more buffers are idle than may
be, all of these are empty, and no buffer is at two places. -/
structure InOrder (maxIdle : Nat) (pool : Pool) (out : List Buffer) : Prop where
  maxIdle_eq : pool.maxIdle = maxIdle
  idle_le : pool.idle.length ≤ maxIdle
  isEmpty : ∀ buffer ∈ pool.idle, buffer.IsEmpty
  nodup : (pool.numbers out).Nodup
  lt_made : ∀ number ∈ pool.numbers out, number < pool.made

/-- Taking a buffer makes a new one exactly if none is idle. -/
theorem get_cases (pool : Pool) :
    (pool.idle = [] ∧ pool.get = ({ number := pool.made }, { pool with made := pool.made + 1 })) ∨
      ∃ buffer rest, pool.idle = buffer :: rest ∧
        pool.get = (buffer, { pool with idle := rest }) := by
  unfold get
  cases idle : pool.idle with
  | nil => exact .inl ⟨rfl, rfl⟩
  | cons buffer rest => exact .inr ⟨buffer, rest, rfl, rfl⟩

/-- A buffer that is given back is emptied and idle, or gone if there are enough idle ones. -/
theorem put_cases (pool : Pool) (buffer : Buffer) :
    (pool.idle.length < pool.maxIdle ∧
        pool.put buffer = { pool with idle := buffer.reset :: pool.idle }) ∨
      (pool.maxIdle ≤ pool.idle.length ∧ pool.put buffer = pool) := by
  unfold put
  split
  next room => exact .inl ⟨room, rfl⟩
  next full => exact .inr ⟨Nat.not_lt.mp full, rfl⟩

namespace InOrder

variable {maxIdle : Nat} {pool : Pool} {out : List Buffer} {buffer : Buffer}

theorem fresh (maxIdle : Nat) : InOrder maxIdle { maxIdle } [] where
  maxIdle_eq := rfl
  idle_le := Nat.zero_le _
  isEmpty := fun _ inside => nomatch inside
  nodup := List.nodup_nil
  lt_made := fun _ inside => nomatch inside

/-- It does not matter in which order the buffers are listed that are out, nor what is in them. -/
theorem relisted
    {listed : List Buffer}
    (inOrder : InOrder maxIdle pool out)
    (same : (listed.map Buffer.number).Perm (out.map Buffer.number)) :
    InOrder maxIdle pool listed where
  maxIdle_eq := inOrder.maxIdle_eq
  idle_le := inOrder.idle_le
  isEmpty := inOrder.isEmpty
  nodup := (same.append_left _).nodup_iff.mpr inOrder.nodup
  lt_made := fun number inside =>
    inOrder.lt_made number ((same.append_left _).mem_iff.mp inside)

theorem get
    (inOrder : InOrder maxIdle pool out) :
    InOrder maxIdle pool.get.2 (pool.get.1 :: out) ∧ pool.get.1.IsEmpty := by
  rcases pool.get_cases with ⟨none, got⟩ | ⟨buffer, rest, idle, got⟩
  · rw [got]
    have others : pool.numbers out = out.map Buffer.number := by
      rw [numbers, none]
      rfl
    have earlier := inOrder.lt_made
    have apart := inOrder.nodup
    rw [others] at earlier apart
    refine ⟨⟨inOrder.maxIdle_eq, inOrder.idle_le, inOrder.isEmpty, ?_, ?_⟩, rfl, rfl⟩
    · simp only [numbers, none, List.map_nil, List.nil_append, List.map_cons, List.nodup_cons]
      exact ⟨fun inside => Nat.lt_irrefl _ (earlier _ inside), apart⟩
    · simp only [numbers, none, List.map_nil, List.nil_append, List.map_cons, List.mem_cons]
      rintro number (rfl | inside)
      · exact Nat.lt_succ_self _
      · exact Nat.lt_succ_of_lt (earlier number inside)
  · rw [got]
    have moved : (numbers { pool with idle := rest } (buffer :: out)).Perm (pool.numbers out) := by
      simp only [numbers, idle, List.map_cons, List.cons_append]
      exact List.perm_middle
    have shorter := inOrder.idle_le
    rw [idle, List.length_cons] at shorter
    refine ⟨⟨inOrder.maxIdle_eq, Nat.le_of_succ_le shorter, fun other inside => ?_,
      moved.nodup_iff.mpr inOrder.nodup, fun number inside => ?_⟩, ?_⟩
    · exact inOrder.isEmpty other (idle ▸ List.mem_cons_of_mem buffer inside)
    · exact inOrder.lt_made number (moved.mem_iff.mp inside)
    · exact inOrder.isEmpty buffer (idle ▸ List.mem_cons_self)

theorem put
    (inOrder : InOrder maxIdle pool (buffer :: out)) :
    InOrder maxIdle (pool.put buffer) out := by
  rcases pool.put_cases buffer with ⟨room, put⟩ | ⟨full, put⟩
  · rw [put]
    have moved : (numbers { pool with idle := buffer.reset :: pool.idle } out).Perm
        (pool.numbers (buffer :: out)) := by
      simp only [numbers, List.map_cons, List.cons_append, Buffer.number_reset]
      exact List.perm_middle.symm
    refine ⟨inOrder.maxIdle_eq, inOrder.maxIdle_eq ▸ room, ?_,
      moved.nodup_iff.mpr inOrder.nodup, fun number inside => ?_⟩
    · intro other inside
      rcases List.mem_cons.mp inside with rfl | before
      · exact buffer.isEmpty_reset
      · exact inOrder.isEmpty other before
    · exact inOrder.lt_made number (moved.mem_iff.mp inside)
  · rw [put]
    have fewer : (pool.numbers out).Sublist (pool.numbers (buffer :: out)) :=
      ((List.sublist_cons_self buffer out).map _).append_left _
    exact ⟨inOrder.maxIdle_eq, inOrder.idle_le, inOrder.isEmpty, fewer.nodup inOrder.nodup,
      fun number inside => inOrder.lt_made number (fewer.mem inside)⟩

end InOrder

/-! ## Buffers that are used for a while -/

/-- A buffer that was taken from a pool is back in it: the same buffers are idle as before, or a new
one if there were none, and the same ones are out. -/
structure GivenBack (before after : Pool) : Prop where
  /-- The pool is in order with the buffers that it was in order with. -/
  inOrder : ∀ maxIdle out, InOrder maxIdle before out -> InOrder maxIdle after out
  /-- The idle buffers have the numbers that they had, as long as no more were idle than may be. -/
  idle_eq : before.idle.length ≤ before.maxIdle ->
    after.idle.map Buffer.number =
      if before.idle = [] then [before.made].take before.maxIdle
      else before.idle.map Buffer.number

/-- It does not matter what is written to a buffer before it is given back. -/
theorem givenBack_put_get
    {pool : Pool} {filled : Buffer}
    (same : filled.number = pool.get.1.number) :
    GivenBack pool (pool.get.2.put filled) where
  inOrder := fun maxIdle out inOrder =>
    InOrder.put (inOrder.get.1.relisted (.of_eq (by simp [same])))
  idle_eq := by
    intro bound
    rcases pool.get_cases with ⟨none, got⟩ | ⟨buffer, rest, idle, got⟩
    · rw [got] at same ⊢
      rw [if_pos none]
      rcases put_cases { pool with made := pool.made + 1 } filled with ⟨room, put⟩ | ⟨full, put⟩
      · have some : 1 ≤ pool.maxIdle := Nat.lt_of_le_of_lt (Nat.zero_le _) room
        rw [put, List.take_of_length_le (by exact some)]
        simp [none, same]
      · have zero : pool.maxIdle = 0 := by simpa [none] using full
        rw [put, zero]
        simp [none]
    · rw [got] at same ⊢
      rw [idle, List.length_cons] at bound
      rw [if_neg (idle ▸ List.cons_ne_nil buffer rest), idle]
      rcases put_cases { pool with idle := rest } filled with ⟨room, put⟩ | ⟨full, put⟩
      · rw [put]
        simp [same]
      · exact absurd bound (Nat.not_lt.mpr full)

/-! ## Holders -/

/-- Who makes a step. -/
def Step.holder : Step -> String
  | .get holder => holder
  | .write holder _ => holder
  | .overwrite holder _ _ => holder
  | .put holder => holder

namespace Holders

/-- The buffers that are held. -/
def out (holders : Holders) : List Buffer :=
  holders.held.map Prod.snd

/-- What a holder can do: nothing, take a buffer when it has none or in exchange for the one that it
has, change what is in its buffer, or give it back. -/
inductive Does (holders : Holders) (holder : String) : Holders -> Prop
  | nothing : Does holders holder holders
  | take (free : holders.buffer? holder = none) :
      Does holders holder
        ⟨holders.pool.get.2, (holder, holders.pool.get.1) :: holders.others holder⟩
  | exchange {old : Buffer} (held : holders.buffer? holder = some old) :
      Does holders holder
        ⟨holders.pool.get.2.put old, (holder, holders.pool.get.1) :: holders.others holder⟩
  | change {old new : Buffer} (held : holders.buffer? holder = some old)
      (same : new.number = old.number) :
      Does holders holder ⟨holders.pool, (holder, new) :: holders.others holder⟩
  | giveBack {old : Buffer} (held : holders.buffer? holder = some old) :
      Does holders holder ⟨holders.pool.put old, holders.others holder⟩

theorem does_step (holders : Holders) (step : Step) :
    Does holders step.holder (holders.step step) := by
  cases step with
  | get holder =>
      cases held : holders.buffer? holder with
      | none =>
          simp only [step, held]
          exact .take held
      | some old =>
          simp only [step, held]
          exact .exchange held
  | write holder bytes =>
      cases held : holders.buffer? holder with
      | none =>
          simp only [step, held]
          exact .nothing
      | some old =>
          simp only [step, held]
          exact .change held rfl
  | overwrite holder content zipped =>
      cases held : holders.buffer? holder with
      | none =>
          simp only [step, held]
          exact .nothing
      | some old =>
          simp only [step, held]
          exact .change held rfl
  | put holder =>
      cases held : holders.buffer? holder with
      | none =>
          simp only [step, held]
          exact .nothing
      | some old =>
          simp only [step, held]
          exact .giveBack held

/-- A pool is in order with what its holders have, and no holder is listed twice. -/
structure Sound (maxIdle : Nat) (holders : Holders) : Prop where
  inOrder : InOrder maxIdle holders.pool holders.out
  once : (holders.held.map Prod.fst).Nodup

section Lookups

variable {holders : Holders} {holder other : String} {buffer : Buffer} {pool : Pool}

theorem buffer?_cons_self (rest : List (String × Buffer)) :
    (Holders.mk pool ((holder, buffer) :: rest)).buffer? holder = some buffer := by
  simp [buffer?]

theorem buffer?_cons_others
    (different : other ≠ holder) :
    (Holders.mk pool ((holder, buffer) :: holders.others holder)).buffer? other =
      holders.buffer? other := by
  have skipped : (other == holder) = false := beq_eq_false_iff_ne.mpr different
  rw [buffer?, List.lookup_cons, skipped]
  exact lookup_filter_ne holders.held holder other different

theorem others_of_none
    (free : holders.buffer? holder = none) :
    holders.others holder = holders.held := by
  rw [others, List.filter_eq_self]
  intro entry inside
  have listed : (holder != entry.1) = true := by
    simpa using List.lookup_eq_none_iff.mp free entry inside
  exact bne_iff_ne.mpr (Ne.symm (bne_iff_ne.mp listed))

/-- The buffer of a holder can be listed before those of all others. -/
theorem cons_others_perm
    (once : (holders.held.map Prod.fst).Nodup)
    (held : holders.buffer? holder = some buffer) :
    (buffer :: (holders.others holder).map Prod.snd).Perm holders.out :=
  (cons_filter_ne_perm once held).map Prod.snd

theorem once_cons_others
    (once : (holders.held.map Prod.fst).Nodup) :
    (((holder, buffer) :: holders.others holder).map Prod.fst).Nodup := by
  rw [List.map_cons, List.nodup_cons]
  refine ⟨fun inside => ?_, (List.filter_sublist.map Prod.fst).nodup once⟩
  obtain ⟨entry, kept, same⟩ := List.mem_map.mp inside
  exact bne_iff_ne.mp (List.mem_filter.mp kept).2 same

end Lookups

/-- Whatever a holder does keeps all in order. -/
theorem Does.sound
    {maxIdle : Nat} {holders after : Holders} {holder : String}
    (does : Does holders holder after)
    (sound : Sound maxIdle holders) :
    Sound maxIdle after := by
  have got := sound.inOrder.get.1
  cases does with
  | nothing => exact sound
  | take free =>
      refine ⟨?_, once_cons_others sound.once⟩
      simpa only [out, List.map_cons, others_of_none free] using got
  | exchange held =>
      have moved := (cons_others_perm sound.once held).map Buffer.number
      exact ⟨InOrder.put (got.relisted ((List.Perm.swap _ _ _).trans (moved.cons _))),
        once_cons_others sound.once⟩
  | change held same =>
      have moved := (cons_others_perm sound.once held).map Buffer.number
      rw [List.map_cons, ← same] at moved
      exact ⟨sound.inOrder.relisted moved, once_cons_others sound.once⟩
  | giveBack held =>
      have moved := (cons_others_perm sound.once held).map Buffer.number
      exact ⟨InOrder.put (sound.inOrder.relisted moved),
        (List.filter_sublist.map Prod.fst).nodup sound.once⟩

/-- Whatever a holder does leaves what every other one has. -/
theorem Does.buffer?_eq
    {holders after : Holders} {holder other : String}
    (does : Does holders holder after)
    (different : other ≠ holder) :
    after.buffer? other = holders.buffer? other := by
  cases does with
  | nothing => rfl
  | take free => exact buffer?_cons_others different
  | exchange held => exact buffer?_cons_others different
  | change held same => exact buffer?_cons_others different
  | giveBack held => exact lookup_filter_ne holders.held holder other different

theorem Sound.run
    {maxIdle : Nat} {holders : Holders}
    (sound : Sound maxIdle holders) (steps : List Step) :
    Sound maxIdle (holders.run steps) := by
  induction steps generalizing holders with
  | nil => exact sound
  | cons first rest inductionHypothesis =>
      exact inductionHypothesis ((does_step holders first).sound sound)

theorem sound_fresh (maxIdle : Nat) : Sound maxIdle ⟨{ maxIdle }, []⟩ :=
  ⟨.fresh maxIdle, List.nodup_nil⟩

/-! ## What holders can rely on -/

/-- The buffers of a pool and of its holders are kept apart, and each holder gets an empty one. -/
structure KeptApart (maxIdle : Nat) (holders : Holders) : Prop where
  /-- No more buffers are idle than may be. -/
  idle_le : holders.pool.idle.length ≤ maxIdle
  /-- No buffer is idle twice. -/
  idle_nodup : (holders.pool.idle.map Buffer.number).Nodup
  /-- No buffer is idle and held. -/
  idle_ne_held : ∀ holder buffer, holders.buffer? holder = some buffer ->
    ∀ idle ∈ holders.pool.idle, idle.number ≠ buffer.number
  /-- No buffer is held by two holders. -/
  held_ne_held : ∀ holder other, holder ≠ other ->
    ∀ buffer another, holders.buffer? holder = some buffer ->
      holders.buffer? other = some another -> buffer.number ≠ another.number
  /-- What a holder takes is empty; it is a new buffer exactly if none is idle. -/
  get : ∀ holder, ∃ buffer, (holders.step (.get holder)).buffer? holder = some buffer ∧
    buffer.IsEmpty ∧
    if holders.pool.idle = [] then
      buffer.number = holders.pool.made ∧
        (holders.step (.get holder)).pool.made = holders.pool.made + 1
    else
      buffer ∈ holders.pool.idle ∧ (holders.step (.get holder)).pool.made = holders.pool.made
  /-- What a holder gives back is idle then, as far as there is room for it. -/
  put : ∀ holder buffer, holders.buffer? holder = some buffer ->
    (holders.step (.put holder)).buffer? holder = none ∧
      (holders.step (.put holder)).pool.idle.length = min (holders.pool.idle.length + 1) maxIdle
  /-- The number of a new buffer is not yet taken. -/
  lt_made : (∀ idle ∈ holders.pool.idle, idle.number < holders.pool.made) ∧
    ∀ holder buffer, holders.buffer? holder = some buffer -> buffer.number < holders.pool.made
  /-- What one holder does, giving back included, changes nothing of what another one has. -/
  others_keep : ∀ step other, other ≠ step.holder ->
    (holders.step step).buffer? other = holders.buffer? other

theorem length_idle_put
    {maxIdle : Nat} {pool : Pool} {out : List Buffer}
    (inOrder : InOrder maxIdle pool out) (buffer : Buffer) :
    (pool.put buffer).idle.length = min (pool.idle.length + 1) maxIdle := by
  have bound := inOrder.idle_le
  rw [← inOrder.maxIdle_eq] at bound ⊢
  rcases pool.put_cases buffer with ⟨room, put⟩ | ⟨full, put⟩
  · rw [put, List.length_cons]
    exact (Nat.min_eq_left room).symm
  · rw [put]
    omega

theorem buffer?_others_self (holders : Holders) (holder : String) (pool : Pool) :
    (Holders.mk pool (holders.others holder)).buffer? holder = none := by
  refine List.lookup_eq_none_iff.mpr fun entry inside => ?_
  have kept := bne_iff_ne.mp (List.mem_filter.mp inside).2
  exact bne_iff_ne.mpr (Ne.symm kept)

theorem made_put (pool : Pool) (buffer : Buffer) : (pool.put buffer).made = pool.made := by
  rcases pool.put_cases buffer with ⟨-, put⟩ | ⟨-, put⟩ <;> rw [put]

/-- Taking a buffer makes as many as the pool makes for it. -/
theorem made_step_get (holders : Holders) (holder : String) :
    (holders.step (.get holder)).pool.made = holders.pool.get.2.made := by
  cases held : holders.buffer? holder with
  | none => simp only [step, held]
  | some old => simp only [step, held, made_put]

namespace Sound

variable {maxIdle : Nat} {holders : Holders}

theorem mem_held
    (sound : Sound maxIdle holders) {holder : String} {buffer : Buffer}
    (held : holders.buffer? holder = some buffer) :
    (holder, buffer) ∈ holders.held :=
  (cons_filter_ne_perm sound.once held).mem_iff.mp List.mem_cons_self

theorem mem_numbers
    (sound : Sound maxIdle holders) {holder : String} {buffer : Buffer}
    (held : holders.buffer? holder = some buffer) :
    buffer.number ∈ holders.out.map Buffer.number :=
  List.mem_map_of_mem (List.mem_map_of_mem (sound.mem_held held))

theorem keptApart (sound : Sound maxIdle holders) : KeptApart maxIdle holders where
  idle_le := sound.inOrder.idle_le
  idle_nodup := (List.nodup_append.mp sound.inOrder.nodup).1
  idle_ne_held := fun holder buffer held idle inside =>
    (List.nodup_append.mp sound.inOrder.nodup).2.2 _ (List.mem_map_of_mem inside) _
      (sound.mem_numbers held)
  held_ne_held := by
    intro holder other different buffer another held heldToo same
    have apart : (holders.held.map fun entry => entry.2.number).Nodup := by
      have nodup := (List.nodup_append.mp sound.inOrder.nodup).2.1
      rwa [out, List.map_map] at nodup
    have equal := List.inj_on_of_nodup_map apart (sound.mem_held held) (sound.mem_held heldToo) same
    exact different (congrArg Prod.fst equal)
  get := by
    intro holder
    refine ⟨holders.pool.get.1, buffer?_cons_self _, sound.inOrder.get.2, ?_⟩
    rw [made_step_get]
    rcases holders.pool.get_cases with ⟨none, got⟩ | ⟨buffer, rest, idle, got⟩
    · rw [got, if_pos none]
      exact ⟨rfl, rfl⟩
    · rw [got, if_neg (idle ▸ List.cons_ne_nil buffer rest), idle]
      exact ⟨List.mem_cons_self, rfl⟩
  put := by
    intro holder buffer held
    simp only [step, held]
    exact ⟨buffer?_others_self holders holder _, length_idle_put sound.inOrder buffer⟩
  lt_made :=
    ⟨fun _ inside => sound.inOrder.lt_made _ (List.mem_append_left _ (List.mem_map_of_mem inside)),
      fun _ _ held => sound.inOrder.lt_made _ (List.mem_append_right _ (sound.mem_numbers held))⟩
  others_keep := fun step _ different => (does_step holders step).buffer?_eq different

end Sound

/-- Whatever any holders do one after another, from a pool that has no buffers yet, the buffers are
kept apart. -/
theorem kept_apart_after_steps (maxIdle : Nat) (steps : List Step) :
    KeptApart maxIdle (Holders.run ⟨{ maxIdle }, []⟩ steps) :=
  ((sound_fresh maxIdle).run steps).keptApart

end Holders

end Pool
end Telemetry
