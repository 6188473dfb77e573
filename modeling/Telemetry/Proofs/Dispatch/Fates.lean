import Telemetry.Proofs.Dispatch.Jobs

/-!
# What becomes of a submission

A submission waits exactly as long as its batch is on its way, waits for room
or is in the place.  It is accepted when its batch is started, and refused only
when every worker has broken down.
-/

namespace Telemetry
namespace Dispatch

variable {batch : Type}

/-- Where the batches of submissions are, and what became of them. -/
structure Accounted (outcome : Job batch -> Outcome) (state : State batch) : Prop where
  /-- The submission of a batch that waits for room waits. -/
  pending : ∀ job ∈ state.pending, state.fates[job.number]? = some .waiting
  /-- The batch that the place was promised to is on its way, and its submission waits. -/
  promised : ∀ job, state.place = .promised job ->
    job ∈ state.arriving ∧ state.fates[job.number]? = some .waiting
  /-- Nobody waits for room as long as the place is free. -/
  free : state.place = .free -> state.pending = []
  /-- The batch of a submission that waits has not been started. -/
  waiting : ∀ number, state.fates[number]? = some .waiting ->
    ∃ job, job.number = number ∧
      (job ∈ state.arriving ∨ job ∈ state.pending ∨ job ∈ state.held)
  /-- Batches are started in the order in which they entered; one may be in the place. -/
  entered : ∃ left, state.entered = state.started ++ left ∧
    (left = state.held ∨ state.AllCrashed outcome)
  /-- A submission is accepted only once its batch was started. -/
  accepted : ∀ number, state.fates[number]? = some .accepted ->
    ∃ job ∈ state.started, job.number = number
  /-- The submission of a batch that was started is accepted, unless it was given up. -/
  taken : ∀ job ∈ state.started,
    state.fates[job.number]? = some .accepted ∨ state.fates[job.number]? = some .givenUp
  /-- A submission is refused only when every worker has broken down. -/
  refused : .refused ∈ state.fates -> state.AllCrashed outcome
  /-- Once every worker has broken down, nothing is in the queue or waits for room. -/
  deserted : state.AllCrashed outcome -> state.place = .free ∧ state.pending = []

namespace Accounted

variable {outcome : Job batch -> Outcome} {index limit : Nat} {submitted : List batch}
  {state after : State batch}

theorem entered_eq
    (accounted : Accounted outcome state)
    (staffed : ¬ state.AllCrashed outcome) :
    state.entered = state.started ++ state.held := by
  obtain ⟨left, entered, same | crashed⟩ := accounted.entered
  · rw [entered, same]
  · exact absurd crashed staffed

/-! ## Settling a fate -/

/-- A submission whose batch was started stays accepted or given up. -/
theorem taken_settled {job : Job batch} {number : Nat} {fate : Fate}
    (accounted : Accounted outcome state)
    (begun : job ∈ state.started) :
    (settledFates state.fates number fate)[job.number]? = some .accepted ∨
      (settledFates state.fates number fate)[job.number]? = some .givenUp := by
  obtain accepted | givenUp := accounted.taken job begun
  · exact Or.inl (settledFates_of_decided accepted (by simp))
  · exact Or.inr (settledFates_of_decided givenUp (by simp))

/-- As long as a worker is left, a batch that is taken is accepted unless it was given up. -/
theorem settled_accepted {number : Nat}
    (accounted : Accounted outcome state)
    (staffed : ¬ state.AllCrashed outcome)
    (inside : number < state.fates.length) :
    (settledFates state.fates number .accepted)[number]? = some .accepted ∨
      (settledFates state.fates number .accepted)[number]? = some .givenUp := by
  have found {fate : Fate} (same : state.fates[number] = fate) :
      state.fates[number]? = some fate :=
    List.getElem?_eq_some_iff.mpr ⟨inside, same⟩
  cases fate : state.fates[number] with
  | waiting =>
      rw [getElem?_settledFates, if_pos ⟨rfl, found fate⟩]
      exact Or.inl rfl
  | accepted => exact Or.inl (settledFates_of_decided (found fate) (by simp))
  | givenUp => exact Or.inr (settledFates_of_decided (found fate) (by simp))
  | refused => exact absurd (accounted.refused (fate ▸ List.getElem_mem inside)) staffed

/-- Who is refused once another fate was settled was refused before. -/
theorem allCrashed_of_settled {number : Nat} {fate : Fate}
    (accounted : Accounted outcome state)
    (decided : fate ≠ .refused)
    (refused : .refused ∈ settledFates state.fates number fate) :
    state.AllCrashed outcome := by
  obtain ⟨other, found⟩ := List.mem_iff_getElem?.mp refused
  exact accounted.refused (List.mem_of_getElem? (settledFates_old found decided.symm))

/-! ## What happens to a batch -/

theorem take {job : Job batch}
    (accounted : Accounted outcome state)
    (counted : Counted outcome limit state)
    (numbered : Numbered submitted state)
    (may : MayReceive state index)
    (holds : state.place = .holds job)
    (later : Counted outcome limit after)
    (found : after.workers[index]? = some (.sending job))
    (place : after.place = offered state.pending)
    (pending : after.pending = state.pending.tail)
    (fates : after.fates = settledFates state.fates job.number .accepted)
    (arriving : ∀ other, other ∈ after.arriving ↔
      other ∈ state.arriving ∨ state.pending.head? = some other)
    (entered : after.entered = state.entered)
    (started : after.started = state.started ++ [job]) :
    Accounted outcome after := by
  obtain ⟨old, present, -, left⟩ := may.found
  have staffed := counted.not_allCrashed present left
  have staffedLater := later.not_allCrashed found rfl
  have held : state.held = [job] := by
    unfold State.held
    rw [holds]
  have heldLater := State.held_eq_nil_of_offered place
  have inQueue : job ∈ state.entered := by
    rw [accounted.entered_eq staffed, held]
    exact List.mem_append_right _ List.mem_cons_self
  have stillWaits : ∀ other ∈ state.pending, after.fates[other.number]? = some .waiting := by
    intro other waits
    rw [fates, settledFates_waiting_iff (by simp)]
    exact ⟨accounted.pending other waits, numbered.number_ne (Or.inr waits) inQueue⟩
  constructor
  case pending =>
    intro other waits
    rw [pending] at waits
    exact stillWaits other (List.mem_of_mem_tail waits)
  case promised =>
    intro other promised
    rw [place, offered_eq_promised_iff] at promised
    exact ⟨(arriving other).mpr (Or.inr promised), stillWaits other (List.mem_of_head? promised)⟩
  case free =>
    intro free
    rw [place, offered_eq_free_iff] at free
    rw [pending, free]
    rfl
  case waiting =>
    intro number waiting
    rw [fates, settledFates_waiting_iff (by simp)] at waiting
    obtain ⟨other, same, spot⟩ := accounted.waiting number waiting.1
    refine ⟨other, same, ?_⟩
    obtain arrives | waits | inPlace := spot
    · exact Or.inl ((arriving other).mpr (Or.inl arrives))
    · rw [pending, arriving]
      obtain first | behind := (mem_iff_head?_or_tail _ _).mp waits
      · exact Or.inl (Or.inr first)
      · exact Or.inr (Or.inl behind)
    · rw [held] at inPlace
      rw [List.mem_singleton.mp inPlace] at same
      exact absurd same.symm waiting.2
  case entered =>
    refine ⟨[], ?_, Or.inl heldLater.symm⟩
    rw [entered, started, accounted.entered_eq staffed, held, List.append_nil]
  case accepted =>
    intro number accepted
    rw [started]
    rw [fates, getElem?_settledFates] at accepted
    split at accepted
    next both => exact ⟨job, List.mem_append_right _ List.mem_cons_self, both.1.symm⟩
    next =>
      obtain ⟨other, before, same⟩ := accounted.accepted number accepted
      exact ⟨other, List.mem_append_left _ before, same⟩
  case taken =>
    intro other begun
    rw [started] at begun
    rw [fates]
    obtain before | new := List.mem_append.mp begun
    · exact accounted.taken_settled before
    · rw [List.mem_singleton.mp new]
      apply accounted.settled_accepted staffed
      exact numbered.number_lt (List.mem_append_right _ inQueue)
  case refused =>
    intro refused
    rw [fates] at refused
    exact absurd (accounted.allCrashed_of_settled (by simp) refused) staffed
  case deserted => exact fun crashed => absurd crashed staffedLater

/-- What leaves batches and submissions alone changes nothing about them. -/
theorem unmoved
    (accounted : Accounted outcome state)
    (crashed : after.AllCrashed outcome ↔ state.AllCrashed outcome)
    (arriving : after.arriving = state.arriving)
    (pending : after.pending = state.pending)
    (place : after.place = state.place)
    (fates : after.fates = state.fates)
    (entered : after.entered = state.entered)
    (started : after.started = state.started) :
    Accounted outcome after := by
  have held : after.held = state.held := by
    unfold State.held
    rw [place]
  constructor
  case pending =>
    rw [pending, fates]
    exact accounted.pending
  case promised =>
    rw [place, arriving, fates]
    exact accounted.promised
  case free =>
    rw [place, pending]
    exact accounted.free
  case waiting =>
    rw [fates, arriving, pending, held]
    exact accounted.waiting
  case entered =>
    rw [entered, started, held, crashed]
    exact accounted.entered
  case accepted =>
    rw [fates, started]
    exact accounted.accepted
  case taken =>
    rw [fates, started]
    exact accounted.taken
  case refused =>
    rw [fates, crashed]
    exact accounted.refused
  case deserted =>
    rw [place, pending, crashed]
    exact accounted.deserted

/-- The last worker that breaks down takes the queue along. -/
theorem close {job : Job batch}
    (accounted : Accounted outcome state)
    (counted : Counted outcome limit state)
    (sending : state.workers[index]? = some (.sending job))
    (crashes : outcome job = .crashed)
    (alone : after.isDeserted = true)
    (workers : after.workers = state.workers.set index .gone)
    (ended : after.ended = state.ended ++ [job])
    (place : after.place = .free)
    (pending : after.pending = [])
    (fates : after.fates =
      state.fates.map fun fate => if fate = .waiting then .refused else fate)
    (entered : after.entered = state.entered)
    (started : after.started = state.started) :
    Accounted outcome after := by
  have staffed := counted.not_allCrashed sending rfl
  have nobody : .waiting ∉ after.fates := fates ▸ waiting_notMem_refused state.fates
  have crashedIfOpen := counted.allCrashed_of_last sending crashes alone workers ended
  constructor
  case pending => simp [pending]
  case promised => simp [place]
  case free => exact fun _ => pending
  case waiting => exact fun number waiting => absurd (List.mem_of_getElem? waiting) nobody
  case entered =>
    refine ⟨state.held, ?_, ?_⟩
    · rw [entered, started]
      exact accounted.entered_eq staffed
    · obtain empty | ⟨other, -, holding⟩ := state.held_cases
      · refine Or.inl (empty.trans ?_)
        unfold State.held
        rw [place]
      · exact Or.inr (crashedIfOpen (Or.inr (by simp [holding])))
  case accepted =>
    intro number accepted
    rw [fates] at accepted
    rw [started]
    exact accounted.accepted number (refused_old accepted (by simp))
  case taken =>
    intro other begun
    rw [started] at begun
    rw [fates]
    obtain accepted | givenUp := accounted.taken other begun
    · exact Or.inl (refused_of_decided accepted (by simp))
    · exact Or.inr (refused_of_decided givenUp (by simp))
  case refused =>
    intro refused
    rw [fates] at refused
    obtain ⟨fate, present, same⟩ := List.mem_map.mp refused
    split at same
    next waits =>
      obtain ⟨number, waiting⟩ := List.mem_iff_getElem?.mp (waits ▸ present)
      exact crashedIfOpen (Or.inl (counted.proceeding_of_waiting waiting))
    next => exact absurd (accounted.refused (same ▸ present)) staffed
  case deserted => exact fun _ => ⟨place, pending⟩

variable [DecidableEq batch]

theorem move
    (accounted : Accounted outcome state)
    (counted : Counted outcome limit state)
    (numbered : Numbered submitted state)
    (move : Move outcome index state after) :
    Accounted outcome after := by
  have later := counted.move move
  cases move with
  | take job may holds =>
      refine accounted.take counted numbered may holds later
        (List.getElem?_set_self may.lt_length) rfl rfl rfl ?_ rfl rfl
      intro other
      simp
  | pass => exact { accounted with }
  | finish job sending survives =>
      have inside : index < state.workers.length := (List.getElem?_eq_some_iff.mp sending).1
      exact accounted.unmoved
        (iff_of_false (later.not_allCrashed (List.getElem?_set_self inside) rfl)
          (counted.not_allCrashed sending rfl)) rfl rfl rfl rfl rfl rfl

theorem halt
    (accounted : Accounted outcome state)
    (counted : Counted outcome limit state)
    (halt : Halt outcome index state after) :
    Accounted outcome after := by
  have later := counted.halt halt
  have sameCrashes {workers : List (Worker batch)}
      (length : workers.length = state.workers.length) :
      state.crashCount outcome = workers.length ↔ state.AllCrashed outcome := by
    rw [length]
    rfl
  cases halt with
  | rest nothing => exact accounted
  | queue other idle turn =>
      exact accounted.unmoved (sameCrashes List.length_set) rfl rfl rfl rfl rfl rfl
  | await may empty proceeding =>
      exact accounted.unmoved (sameCrashes List.length_set) rfl rfl rfl rfl rfl rfl
  | exit may empty stopping =>
      exact accounted.unmoved (sameCrashes List.length_set) (filterMap_job?_woken_workers _ _)
        rfl rfl rfl rfl rfl
  | block job sending => exact { accounted with }
  | crash job sending crashes others =>
      refine accounted.unmoved (iff_of_false ?_ (counted.not_allCrashed sending rfl))
        rfl rfl rfl rfl rfl rfl
      intro crashed
      exact Bool.false_ne_true (others.symm.trans (later.isDeserted_of_allCrashed crashed))
  | crashLast job sending crashes alone =>
      exact accounted.close counted sending crashes alone rfl rfl rfl rfl rfl rfl rfl

theorem dismiss {job : Job batch}
    (accounted : Accounted outcome state)
    (decided : state.fates[job.number]? ≠ some .waiting) :
    Accounted outcome { state with ready := state.ready.erase (.entry job) } := by
  have stays : ∀ other ∈ state.arriving, state.fates[other.number]? = some .waiting ->
      other ∈ (state.ready.erase (.entry job)).filterMap Task.job? := by
    intro other arrives waits
    refine State.mem_arriving_erase arrives ?_
    rintro rfl
    exact decided waits
  constructor
  case pending => exact accounted.pending
  case promised =>
    intro other promised
    obtain ⟨arrives, waits⟩ := accounted.promised other promised
    exact ⟨stays other arrives waits, waits⟩
  case free => exact accounted.free
  case waiting =>
    intro number waiting
    obtain ⟨other, rfl, spot⟩ := accounted.waiting number waiting
    exact ⟨other, rfl, spot.imp_left (fun arrives => stays other arrives waiting)⟩
  case entered => exact accounted.entered
  case accepted => exact accounted.accepted
  case taken => exact accounted.taken
  case refused => exact accounted.refused
  case deserted => exact accounted.deserted

theorem refuse {job : Job batch}
    (accounted : Accounted outcome state)
    (crashed : state.AllCrashed outcome) :
    Accounted outcome
      { state with
        ready := state.ready.erase (.entry job)
        fates := settledFates state.fates job.number .refused } := by
  obtain ⟨free, nobody⟩ := accounted.deserted crashed
  constructor
  case pending => simp [nobody]
  case promised => simp [free]
  case free => exact fun _ => nobody
  case waiting =>
    intro number waiting
    obtain ⟨waits, different⟩ := (settledFates_waiting_iff (by simp)).mp waiting
    obtain ⟨other, same, spot⟩ := accounted.waiting number waits
    refine ⟨other, same, spot.imp_left ?_⟩
    intro arrives
    refine State.mem_arriving_erase arrives ?_
    rintro rfl
    exact different same.symm
  case entered =>
    obtain ⟨left, entered, -⟩ := accounted.entered
    exact ⟨left, entered, Or.inr crashed⟩
  case accepted =>
    intro number accepted
    exact accounted.accepted number (settledFates_old accepted (by simp))
  case taken => exact fun other begun => accounted.taken_settled begun
  case refused => exact fun _ => crashed
  case deserted => exact accounted.deserted

theorem enter {job : Job batch}
    (accounted : Accounted outcome state)
    (staffed : ¬ state.AllCrashed outcome)
    (room : state.place = .free ∨ state.place = .promised job) :
    Accounted outcome
      { state with
        ready := woken (state.ready.erase (.entry job)) state.receiverTasks
        place := .holds job
        entered := state.entered ++ [job] } := by
  have empty : state.held = [] := by
    unfold State.held
    obtain free | promised := room
    · rw [free]
    · rw [promised]
  constructor
  case pending => exact accounted.pending
  case promised => exact fun other never => nomatch never
  case free => exact fun never => nomatch never
  case waiting =>
    intro number waiting
    obtain ⟨other, same, spot⟩ := accounted.waiting number waiting
    refine ⟨other, same, ?_⟩
    obtain arrives | waits | inPlace := spot
    · by_cases isJob : other = job
      · exact Or.inr (Or.inr (isJob ▸ List.mem_cons_self))
      · refine Or.inl ?_
        unfold State.arriving
        dsimp only
        rw [State.filterMap_job?_woken_receiverTasks]
        exact State.mem_arriving_erase arrives isJob
    · exact Or.inr (Or.inl waits)
    · simp [empty] at inPlace
  case entered =>
    refine ⟨[job], ?_, Or.inl rfl⟩
    rw [accounted.entered_eq staffed, empty, List.append_nil]
  case accepted => exact accounted.accepted
  case taken => exact accounted.taken
  case refused => exact accounted.refused
  case deserted => exact fun crashed => absurd crashed staffed

theorem line {job : Job batch}
    (accounted : Accounted outcome state)
    (awaited : state.fates[job.number]? = some .waiting)
    (staffed : ¬ state.AllCrashed outcome)
    (full : state.place ≠ .free ∧ state.place ≠ .promised job) :
    Accounted outcome
      { state with
        ready := state.ready.erase (.entry job)
        pending := state.pending ++ [job] } := by
  constructor
  case pending =>
    intro other waits
    obtain before | new := List.mem_append.mp waits
    · exact accounted.pending other before
    · rw [List.mem_singleton.mp new]
      exact awaited
  case promised =>
    intro other promised
    obtain ⟨arrives, waits⟩ := accounted.promised other promised
    refine ⟨State.mem_arriving_erase arrives ?_, waits⟩
    rintro rfl
    exact full.2 promised
  case free => exact fun free => absurd free full.1
  case waiting =>
    intro number waiting
    obtain ⟨other, same, spot⟩ := accounted.waiting number waiting
    refine ⟨other, same, ?_⟩
    obtain arrives | waits | inPlace := spot
    · by_cases isJob : other = job
      · exact Or.inr (Or.inl (isJob ▸ List.mem_append_right _ List.mem_cons_self))
      · exact Or.inl (State.mem_arriving_erase arrives isJob)
    · exact Or.inr (Or.inl (List.mem_append_left _ waits))
    · exact Or.inr (Or.inr inPlace)
  case entered => exact accounted.entered
  case accepted => exact accounted.accepted
  case taken => exact accounted.taken
  case refused => exact accounted.refused
  case deserted => exact fun crashed => absurd crashed staffed

theorem admission
    (accounted : Accounted outcome state)
    (counted : Counted outcome limit state)
    (admission : Admission state after) :
    Accounted outcome after := by
  cases admission with
  | dismiss job ready decided => exact accounted.dismiss decided
  | refuse job ready awaited deserted =>
      exact accounted.refuse (counted.allCrashed_of_isDeserted deserted
        (Or.inl (counted.proceeding_of_waiting awaited)))
  | enter job ready awaited staffed room =>
      exact accounted.enter (counted.not_allCrashed_of_staffed staffed) room
  | line job ready awaited staffed full =>
      exact accounted.line awaited (counted.not_allCrashed_of_staffed staffed) full

/-- A submission waits from the start, while its batch is on its way. -/
theorem submit {content : batch}
    (accounted : Accounted outcome state) :
    Accounted outcome
      { state with
        fates := state.fates ++ [.waiting]
        ready := woken state.ready [.entry ⟨state.fates.length, content⟩] } := by
  have kept {number : Nat} {fate : Fate} (found : state.fates[number]? = some fate) :
      (state.fates ++ [.waiting])[number]? = some fate := by
    rw [List.getElem?_append_left (List.getElem?_eq_some_iff.mp found).1]
    exact found
  have old {number : Nat} {fate : Fate} (decided : fate ≠ .waiting)
      (found : (state.fates ++ [.waiting])[number]? = some fate) :
      state.fates[number]? = some fate := by
    grind
  have stays {job : Job batch} (arrives : job ∈ state.arriving) :
      job ∈ (woken state.ready [.entry ⟨state.fates.length, content⟩]).filterMap Task.job? := by
    refine List.mem_filterMap.mpr ⟨.entry job, ?_, rfl⟩
    exact (mem_woken _ _ _).mpr (Or.inl ((state.mem_arriving job).mp arrives))
  constructor
  case pending => exact fun job waits => kept (accounted.pending job waits)
  case promised =>
    intro job promised
    obtain ⟨arrives, waits⟩ := accounted.promised job promised
    exact ⟨stays arrives, kept waits⟩
  case free => exact accounted.free
  case waiting =>
    intro number waiting
    by_cases before : number < state.fates.length
    · rw [List.getElem?_append_left before] at waiting
      obtain ⟨job, same, spot⟩ := accounted.waiting number waiting
      exact ⟨job, same, spot.imp_left stays⟩
    · have last : number = state.fates.length := by
        have inside := (List.getElem?_eq_some_iff.mp waiting).1
        rw [List.length_append, List.length_singleton] at inside
        omega
      refine ⟨⟨state.fates.length, content⟩, last.symm, Or.inl ?_⟩
      refine List.mem_filterMap.mpr ⟨_, (mem_woken _ _ _).mpr (Or.inr List.mem_cons_self), rfl⟩
  case entered => exact accounted.entered
  case accepted => exact fun number accepted => accounted.accepted number (old (by simp) accepted)
  case taken => exact fun job begun => (accounted.taken job begun).imp kept kept
  case refused =>
    intro refused
    obtain before | new := List.mem_append.mp refused
    · exact accounted.refused before
    · cases List.mem_singleton.mp new
  case deserted => exact accounted.deserted

omit [DecidableEq batch] in
/-- A producer that gives up takes its batch out of the line. -/
theorem give_up {waiting : List (Job batch)} (number : Nat)
    (accounted : Accounted outcome state)
    (line : waiting = state.pending.filter fun job => job.number != number)
    (workers : after.workers = state.workers)
    (ended : after.ended = state.ended)
    (fates : after.fates = settledFates state.fates number .givenUp)
    (arriving : ∀ job, job ∈ state.arriving -> job ∈ after.arriving)
    (moved : ∀ job ∈ waiting, job ∈ after.arriving ∨ job ∈ after.pending)
    (pending : ∀ job ∈ after.pending, job ∈ waiting)
    (promised : ∀ job, after.place = .promised job -> job ∈ after.arriving ∧
      (job ∈ waiting ∨ state.place = .promised job ∧ job.number ≠ number))
    (free : after.place = .free -> after.pending = [])
    (held : after.held = state.held)
    (deserted : after.AllCrashed outcome -> after.place = .free)
    (entered : after.entered = state.entered)
    (started : after.started = state.started) :
    Accounted outcome after := by
  have crashed : after.AllCrashed outcome ↔ state.AllCrashed outcome := by
    unfold State.AllCrashed State.crashCount
    rw [workers, ended]
  have stillWaits : ∀ job ∈ waiting, after.fates[job.number]? = some .waiting := by
    intro job waits
    rw [line] at waits
    obtain ⟨present, different⟩ := List.mem_filter.mp waits
    rw [fates, settledFates_waiting_iff (by simp)]
    exact ⟨accounted.pending job present, by simpa using different⟩
  constructor
  case pending => exact fun job waits => stillWaits job (pending job waits)
  case promised =>
    intro job isPromised
    obtain ⟨arrives, waits | ⟨before, different⟩⟩ := promised job isPromised
    · exact ⟨arrives, stillWaits job waits⟩
    · refine ⟨arrives, ?_⟩
      rw [fates, settledFates_waiting_iff (by simp)]
      exact ⟨(accounted.promised job before).2, different⟩
  case free => exact free
  case waiting =>
    intro other found
    rw [fates, settledFates_waiting_iff (by simp)] at found
    obtain ⟨job, same, spot⟩ := accounted.waiting other found.1
    refine ⟨job, same, ?_⟩
    obtain arrives | waits | inPlace := spot
    · exact Or.inl (arriving job arrives)
    · refine (moved job ?_).imp_right Or.inl
      rw [line]
      exact List.mem_filter.mpr ⟨waits, by simpa [same] using found.2⟩
    · exact Or.inr (Or.inr (held ▸ inPlace))
  case entered =>
    rw [entered, started, held, crashed]
    exact accounted.entered
  case accepted =>
    intro other accepted
    rw [fates] at accepted
    rw [started]
    exact accounted.accepted other (settledFates_old accepted (by simp))
  case taken =>
    intro job begun
    rw [started] at begun
    rw [fates]
    exact accounted.taken_settled begun
  case refused =>
    intro refused
    rw [fates] at refused
    exact crashed.mpr (accounted.allCrashed_of_settled (by simp) refused)
  case deserted => exact fun all => ⟨deserted all, free (deserted all)⟩

theorem change {contents : List batch}
    (accounted : Accounted outcome state)
    (change : Change state contents after) :
    Accounted outcome after := by
  cases change with
  | submit content proceeding => exact accounted.submit
  | giveUp number awaited unpromised =>
      refine accounted.give_up number rfl rfl rfl rfl (fun _ arrives => arrives)
        (fun _ waits => Or.inr waits) (fun _ waits => waits) ?_ ?_ rfl ?_ rfl rfl
      · intro job promised
        exact ⟨(accounted.promised job promised).1,
          Or.inr ⟨promised, unpromised job promised⟩⟩
      · intro free
        rw [accounted.free free]
        rfl
      · exact fun crashed => (accounted.deserted crashed).1
  | decline job awaited promised =>
      have nobody : ¬ state.AllCrashed outcome := by
        intro crashed
        cases promised.symm.trans (accounted.deserted crashed).1
      have empty : state.held = [] := by
        unfold State.held
        rw [promised]
      -- The batch that now waits longest is called.
      have called : ∀ other,
          (state.pending.filter fun other => other.number != job.number).head? = some other ->
          other ∈ (woken state.ready
            ((state.pending.filter fun other => other.number != job.number).head?.toList.map
              .entry)).filterMap Task.job? := by
        intro other first
        refine List.mem_filterMap.mpr ⟨.entry other, (mem_woken _ _ _).mpr (Or.inr ?_), rfl⟩
        rw [first]
        exact List.mem_cons_self
      refine accounted.give_up job.number rfl rfl rfl rfl ?_ ?_
        (fun _ => List.mem_of_mem_tail) ?_ ?_
        ((State.held_eq_nil_of_offered rfl).trans empty.symm)
        (fun crashed => absurd crashed nobody) rfl rfl
      · intro other arrives
        simpa using Or.inl arrives
      · intro other waits
        refine ((mem_iff_head?_or_tail _ _).mp waits).imp_left ?_
        exact fun first => called other first
      · intro other promised
        have first := (offered_eq_promised_iff _ _).mp promised
        exact ⟨called other first, Or.inl (List.mem_of_head? first)⟩
      · intro free
        dsimp only
        rw [(offered_eq_free_iff _).mp free]
        rfl
  | release count permits =>
      exact accounted.unmoved Iff.rfl (filterMap_job?_woken_workers _ _) rfl rfl rfl rfl rfl
  | finish index present =>
      exact accounted.unmoved Iff.rfl (filterMap_job?_woken_workers _ [index])
        rfl rfl rfl rfl rfl
  | stop proceeding settled =>
      exact accounted.unmoved Iff.rfl (State.filterMap_job?_woken_receiverTasks _ _)
        rfl rfl rfl rfl rfl

/-- Every step keeps account of batches and submissions. -/
theorem step {contents : List batch}
    (accounted : Accounted outcome state)
    (counted : Counted outcome limit state)
    (numbered : Numbered submitted state)
    (step : Step outcome state contents after) :
    Accounted outcome after := by
  cases step with
  | stay => exact accounted
  | goes ready goes =>
      -- A move keeps account only together with the counts and the numbers.
      refine goes.preserves
        (fun state =>
          Counted outcome limit state ∧ Numbered submitted state ∧ Accounted outcome state)
        (Accounted outcome) ⟨{ counted with }, numbered.begin, ?_⟩ ?_ ?_
      · refine accounted.unmoved Iff.rfl ?_ rfl rfl rfl rfl rfl
        exact filterMap_job?_erase _ _
      · intro early late kept move
        exact ⟨kept.1.move move, kept.2.1.move move, kept.2.2.move kept.1 kept.2.1 move⟩
      · intro early late kept halt
        exact kept.2.2.halt kept.1 halt
  | admits admission => exact accounted.admission counted admission
  | changes change => exact accounted.change change

omit [DecidableEq batch] in
theorem fresh (outcome : Job batch -> Outcome) (limit : Nat) :
    Accounted outcome (State.fresh limit) where
  pending := fun _ never => nomatch never
  promised := fun _ never => nomatch never
  free := fun _ => rfl
  waiting := fun _ never => nomatch never
  entered := ⟨[], rfl, Or.inl rfl⟩
  accepted := fun _ never => nomatch never
  taken := fun _ never => nomatch never
  refused := fun never => nomatch never
  deserted := fun _ => ⟨rfl, rfl⟩

end Accounted
end Dispatch
end Telemetry
