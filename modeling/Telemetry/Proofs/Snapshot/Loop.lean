import Telemetry.Proofs.Snapshot
import Telemetry.Proofs.Store.Listing
import Telemetry.Snapshot.Loop

/-!
# What every run of a save loop keeps

A run of a loop is told by a log, which says what was done and when.  What was
done at one instant may come in any order, and so a tick may come before or
after anything else that falls on its instant.  Time goes on as long as no tick
is due, and it waits for a loop that was asked to stop.  Every save succeeds.
-/

namespace Telemetry
namespace SaveLoop

/-- What is done to a loop and to what it saves. -/
inductive Deed where
  /-- The store is updated. -/
  | updated (update : Update)
  /-- The store is saved at once. -/
  | saved
  /-- The loop saves the store. -/
  | ticked
  /-- The snapshot is removed. -/
  | removed
  /-- The loop is asked to stop. -/
  | asked
  /-- The loop notices that it was asked to stop and ends. -/
  | ended
deriving DecidableEq

/-- How a loop and its surroundings change when something is done and every save succeeds. -/
inductive Step (loop : SaveLoop) : Deed -> SaveLoop -> Prop
  /-- The store is updated. -/
  | updated (update : Update) :
      Step loop (.updated update) { loop with store := loop.store.apply update }
  /-- The store is saved at once, in any order of its metrics. -/
  | saved (listing : loop.store.Listing) (files : Files.Tree) :
      Snapshot.save loop.files loop.path listing.metrics = (files, .ok ()) ->
      Step loop .saved { loop with files }
  /-- A tick is due and the loop saves the store. -/
  | ticked (listing : loop.store.Listing) (files : Files.Tree) :
      loop.hasEnded = false ->
      loop.due ≤ loop.now ->
      Snapshot.save loop.files loop.path listing.metrics = (files, .ok ()) ->
      Step loop .ticked
        { loop with
          files
          due := loop.nextDue
          saves := (loop.now, loop.store) :: loop.saves }
  /-- The snapshot is removed. -/
  | removed (files : Files.Tree) :
      loop.files.remove loop.path = .ok files ->
      Step loop .removed { loop with files }
  /-- There is no snapshot to remove. -/
  | missed :
      loop.files.remove loop.path = .error .notFound ->
      Step loop .removed loop
  /-- The loop is asked to stop. -/
  | asked : Step loop .asked { loop with isStopping := true }
  /-- The loop notices that it was asked to stop. -/
  | ended :
      loop.isStopping = true ->
      loop.hasEnded = false ->
      Step loop .ended { loop with hasEnded := true }

/-- Time may go on for a span: the loop has ended, or it was not asked to stop and no tick is due
before the span is over. -/
def MaySleep (loop : SaveLoop) (span : Nat) : Prop :=
  loop.hasEnded = true ∨ (loop.isStopping = false ∧ loop.now + span ≤ loop.due)

/-- The runs that begin with a loop, each with its log and with the loop that it has come to. -/
inductive Runs (start : SaveLoop) : List (Nat × Deed) -> SaveLoop -> Prop
  /-- Nothing has happened. -/
  | start : Runs start [] start
  /-- Time has gone on. -/
  | slept {log : List (Nat × Deed)} {loop : SaveLoop} (span : Nat) :
      Runs start log loop ->
      loop.MaySleep span ->
      Runs start log { loop with now := loop.now + span }
  /-- Something was done. -/
  | did {log : List (Nat × Deed)} {loop next : SaveLoop} {deed : Deed} :
      Runs start log loop ->
      Step loop deed next ->
      Runs start (log ++ [(loop.now, deed)]) next

/-! ## Logs -/

/-- The store after something was done. -/
def Deed.storeAfter (store : Store) : Deed -> Store
  | .updated update => store.apply update
  | _ => store

/-- What is left of the snapshot of a store when something was done about it: the store in a file,
or nothing. -/
def Deed.left? (store : Store) : Deed -> Option (Option Store)
  | .saved | .ticked => some (some store)
  | .removed => some none
  | .updated _ | .asked | .ended => none

/-- The store after the entries of a log. -/
def storeAfter (store : Store) (log : List (Nat × Deed)) : Store :=
  log.foldl (fun store entry => entry.2.storeAfter store) store

/-- The entries of a log, each with the store as it was then. -/
def withStores : Store -> List (Nat × Deed) -> List (Store × Nat × Deed)
  | _, [] => []
  | store, entry :: rest => (store, entry) :: withStores (entry.2.storeAfter store) rest

/-- When a loop has saved and what, according to a log. -/
def savesIn (store : Store) (log : List (Nat × Deed)) : List (Nat × Store) :=
  (withStores store log).filterMap fun entry =>
    if entry.2.2 = .ticked then some (entry.2.1, entry.1) else none

/-- What is left at the path of the snapshot according to a log, if anything was done about it. -/
def lastLeft? (store : Store) (log : List (Nat × Deed)) : Option (Option Store) :=
  ((withStores store log).filterMap fun entry => entry.2.2.left? entry.1).getLast?

/-- When something was done for the first time. -/
def firstAt? (deed : Deed) (log : List (Nat × Deed)) : Option Nat :=
  (log.find? fun entry => entry.2 = deed).map Prod.fst

/-- When a loop has ended, or the present time while it has not. -/
def servedUntil (log : List (Nat × Deed)) (now : Nat) : Nat :=
  (firstAt? .ended log).getD now

variable {start loop next : SaveLoop} {log : List (Nat × Deed)} {deed : Deed}

theorem storeAfter_concat (store : Store) (log : List (Nat × Deed)) (entry : Nat × Deed) :
    storeAfter store (log ++ [entry]) = entry.2.storeAfter (storeAfter store log) := by
  rw [storeAfter, List.foldl_concat, storeAfter]

theorem withStores_concat (store : Store) (log : List (Nat × Deed)) (entry : Nat × Deed) :
    withStores store (log ++ [entry]) =
      withStores store log ++ [(storeAfter store log, entry)] := by
  induction log generalizing store with
  | nil => rfl
  | cons first rest inductionHypothesis =>
      rw [List.cons_append, withStores, inductionHypothesis]
      rfl

theorem savesIn_concat (store : Store) (log : List (Nat × Deed)) (instant : Nat) (deed : Deed) :
    savesIn store (log ++ [(instant, deed)]) =
      savesIn store log ++ if deed = .ticked then [(instant, storeAfter store log)] else [] := by
  rw [savesIn, withStores_concat, List.filterMap_append, savesIn]
  congr 1
  split
  next ticks => simp [ticks]
  next other => simp [other]

theorem lastLeft?_concat (store : Store) (log : List (Nat × Deed)) (instant : Nat) (deed : Deed) :
    lastLeft? store (log ++ [(instant, deed)]) =
      (deed.left? (storeAfter store log)).or (lastLeft? store log) := by
  rw [lastLeft?, withStores_concat, List.filterMap_append, List.getLast?_append, lastLeft?]
  congr 1
  cases left : deed.left? (storeAfter store log) <;> simp [left]

theorem firstAt?_concat (sought deed : Deed) (log : List (Nat × Deed)) (instant : Nat) :
    firstAt? sought (log ++ [(instant, deed)]) =
      (firstAt? sought log).or (if deed = sought then some instant else none) := by
  rw [firstAt?, List.find?_append, firstAt?]
  cases log.find? fun entry => entry.2 = sought with
  | some entry => rfl
  | none =>
      by_cases same : deed = sought <;> simp [same]

/-! ## What the log tells -/

/-- What is at the path of a snapshot: the metrics of a store in some order, or nothing. -/
def Holds (files : Files.Tree) (path : String) : Option Store -> Prop
  | some store => ∃ listing : store.Listing,
      files.read path = .ok (Snapshot.content listing.metrics)
  | none => files.IsMissing path

/-- The log is in the order of time, and it tells the store and what is at the path of the
snapshot. -/
structure Told (start : SaveLoop) (log : List (Nat × Deed)) (loop : SaveLoop) : Prop where
  path : loop.path = start.path
  order : log.Pairwise fun first second => first.1 ≤ second.1
  past : ∀ entry ∈ log, entry.1 ≤ loop.now
  /-- The store has had the updates of the log. -/
  store : loop.store = storeAfter start.store log
  /-- The file is the store as of the latest save or tick, or absent since it was removed. -/
  file : ∀ left, lastLeft? start.store log = some left -> Holds loop.files loop.path left
  /-- As long as nothing was done about the snapshot the files are as they were. -/
  untouched : lastLeft? start.store log = none -> loop.files = start.files

theorem Step.now_eq (step : Step loop deed next) : next.now = loop.now := by
  cases step <;> rfl

theorem Step.path_eq (step : Step loop deed next) : next.path = loop.path := by
  cases step <;> rfl

theorem Step.store_eq (step : Step loop deed next) :
    next.store = deed.storeAfter loop.store := by
  cases step <;> rfl

/-- What is done about the snapshot leaves what it has to. -/
theorem Step.holds
    {left : Option Store}
    (step : Step loop deed next)
    (leaves : deed.left? loop.store = some left) :
    Holds next.files next.path left := by
  cases step with
  | saved listing files saves =>
      cases leaves
      exact ⟨listing, Snapshot.read_of_saveWith saves⟩
  | ticked listing files serves isDue saves =>
      cases leaves
      exact ⟨listing, Snapshot.read_of_saveWith saves⟩
  | removed files removes =>
      cases leaves
      exact (Files.Tree.remove_spec removes).2.1
  | missed missing =>
      cases leaves
      exact Files.Tree.isMissing_of_remove_eq_notFound missing
  | updated update => cases leaves
  | asked => cases leaves
  | ended stops serves => cases leaves

/-- All else leaves the files alone. -/
theorem Step.files_eq
    (step : Step loop deed next)
    (leaves : deed.left? loop.store = none) :
    next.files = loop.files := by
  cases step with
  | saved listing files saves => cases leaves
  | ticked listing files serves isDue saves => cases leaves
  | removed files removes => cases leaves
  | _ => rfl

theorem Told.did
    (told : Told start log loop)
    (step : Step loop deed next) :
    Told start (log ++ [(loop.now, deed)]) next where
  path := step.path_eq.trans told.path
  order := by
    refine List.pairwise_append.mpr ⟨told.order, List.pairwise_singleton _ _, ?_⟩
    intro first present last isLast
    rw [List.mem_singleton.mp isLast]
    exact told.past first present
  past := by
    intro entry present
    rw [step.now_eq]
    rcases List.mem_append.mp present with old | new
    · exact told.past entry old
    · exact (List.mem_singleton.mp new) ▸ Nat.le_refl _
  store := by rw [step.store_eq, told.store, storeAfter_concat]
  file := by
    intro left isLeft
    rw [lastLeft?_concat, ← told.store] at isLeft
    cases leaves : deed.left? loop.store with
    | some newest =>
        rw [leaves] at isLeft
        cases isLeft
        exact step.holds leaves
    | none =>
        rw [leaves, Option.none_or] at isLeft
        rw [step.files_eq leaves, step.path_eq]
        exact told.file left isLeft
  untouched := by
    intro nothing
    rw [lastLeft?_concat, ← told.store, Option.or_eq_none_iff] at nothing
    rw [step.files_eq nothing.1]
    exact told.untouched nothing.2

theorem told_of_runs (runs : Runs start log loop) : Told start log loop := by
  induction runs with
  | start => exact ⟨rfl, List.Pairwise.nil, nofun, rfl, nofun, fun _ => rfl⟩
  | slept span _ _ told =>
      exact ⟨told.path, told.order,
        fun entry present => Nat.le_add_right_of_le (told.past entry present), told.store,
        told.file, told.untouched⟩
  | did _ step told => exact told.did step

/-! ## The end -/

/-- A loop ends at the instant at which it was asked to stop, and then it never ticks again. -/
structure EndsWhenAsked (log : List (Nat × Deed)) (loop : SaveLoop) : Prop where
  isStopping : loop.isStopping = (firstAt? .asked log).isSome
  hasEnded : loop.hasEnded = (firstAt? .ended log).isSome
  /-- No loop ends that was not asked to stop. -/
  unasked : firstAt? .asked log = none -> firstAt? .ended log = none
  /-- One that was asked has ended, or it is going to end before time goes on. -/
  atOnce : ∀ instant, firstAt? .asked log = some instant ->
    firstAt? .ended log = some instant ∨ (firstAt? .ended log = none ∧ loop.now = instant)
  /-- Nothing is saved by a loop that has ended. -/
  silent : log.Pairwise fun first second => first.2 = .ended -> second.2 ≠ .ticked

theorem Step.isStopping_eq (step : Step loop deed next) :
    next.isStopping = (loop.isStopping || decide (deed = .asked)) := by
  cases step <;> simp

theorem Step.hasEnded_eq (step : Step loop deed next) :
    next.hasEnded = (loop.hasEnded || decide (deed = .ended)) := by
  cases step <;> simp

theorem isSome_firstAt?_concat (sought deed : Deed) (log : List (Nat × Deed)) (instant : Nat) :
    (firstAt? sought (log ++ [(instant, deed)])).isSome =
      ((firstAt? sought log).isSome || decide (deed = sought)) := by
  rw [firstAt?_concat]
  by_cases same : deed = sought <;> simp [same]

theorem isSome_firstAt?_of_mem
    {entry : Nat × Deed}
    (present : entry ∈ log) :
    (firstAt? entry.2 log).isSome = true := by
  rw [firstAt?, Option.isSome_map, List.find?_isSome]
  exact ⟨entry, present, decide_eq_true rfl⟩

theorem EndsWhenAsked.slept
    {span : Nat}
    (ends : EndsWhenAsked log loop)
    (sleeps : loop.MaySleep span) :
    EndsWhenAsked log { loop with now := loop.now + span } where
  isStopping := ends.isStopping
  hasEnded := ends.hasEnded
  unasked := ends.unasked
  atOnce := by
    intro instant asked
    rcases ends.atOnce instant asked with ended | ⟨serves, -⟩
    · exact Or.inl ended
    · have notEnded := ends.hasEnded
      have stops := ends.isStopping
      rw [serves] at notEnded
      rw [asked] at stops
      rcases sleeps with hasEnded | ⟨notStopping, -⟩
      · rw [hasEnded] at notEnded
        cases notEnded
      · rw [notStopping] at stops
        cases stops
  silent := ends.silent

theorem EndsWhenAsked.did
    (ends : EndsWhenAsked log loop)
    (step : Step loop deed next) :
    EndsWhenAsked (log ++ [(loop.now, deed)]) next where
  isStopping := by rw [step.isStopping_eq, ends.isStopping, isSome_firstAt?_concat]
  hasEnded := by rw [step.hasEnded_eq, ends.hasEnded, isSome_firstAt?_concat]
  unasked := by
    intro unasked
    rw [firstAt?_concat, Option.or_eq_none_iff] at unasked ⊢
    refine ⟨ends.unasked unasked.1, if_neg ?_⟩
    rintro rfl
    cases step with
    | ended stops =>
        rw [ends.isStopping, unasked.1] at stops
        cases stops
  atOnce := by
    intro instant asked
    rw [firstAt?_concat] at asked ⊢
    rw [step.now_eq]
    cases askedBefore : firstAt? .asked log with
    | some first =>
        rw [askedBefore] at asked
        obtain rfl : first = instant := Option.some.inj asked
        rcases ends.atOnce first askedBefore with ended | ⟨serves, now⟩
        · exact Or.inl (by rw [ended, Option.some_or])
        · by_cases isEnd : deed = .ended <;> simp [serves, isEnd, now]
    | none =>
        rw [askedBefore, Option.none_or] at asked
        split at asked
        next isAsk =>
          refine Or.inr ⟨?_, Option.some.inj asked⟩
          rw [ends.unasked askedBefore, isAsk]
          rfl
        next => cases asked
  silent := by
    refine List.pairwise_append.mpr ⟨ends.silent, List.pairwise_singleton _ _, ?_⟩
    rintro first present last isLast ended ticks
    obtain rfl := List.mem_singleton.mp isLast
    obtain rfl : deed = .ticked := ticks
    cases step with
    | ticked listing files serves =>
        have hasEnded := isSome_firstAt?_of_mem present
        rw [ended, ← ends.hasEnded, serves] at hasEnded
        cases hasEnded

theorem endsWhenAsked_of_runs
    (runs : Runs start log loop)
    (isStopping : start.isStopping = false)
    (hasEnded : start.hasEnded = false) :
    EndsWhenAsked log loop := by
  induction runs with
  | start => exact ⟨isStopping, hasEnded, fun _ => rfl, nofun, List.Pairwise.nil⟩
  | slept span _ sleeps ends => exact ends.slept sleeps
  | did _ step ends => exact ends.did step

/-! ## Ticks -/

/-- A loop has saved at the first multiples of its period and at no other time, each time the store
as it was then, and it has left out none while it served. -/
structure OnTime (start : SaveLoop) (log : List (Nat × Deed)) (loop : SaveLoop) : Prop where
  period : loop.period = start.period
  /-- The saves are the ticks in the log. -/
  saves : loop.saves.reverse = savesIn start.store log
  /-- They were made at the first multiples of the period. -/
  instants : loop.saves.reverse.map Prod.fst =
    (List.range loop.saves.length).map fun number => (number + 1) * start.period
  due : loop.due = (loop.saves.length + 1) * start.period
  /-- None was made early. -/
  reached : loop.saves.length * start.period ≤ servedUntil log loop.now
  /-- None was left out. -/
  next : servedUntil log loop.now ≤ (loop.saves.length + 1) * start.period

/-- A loop that has not ended serves until now. -/
theorem EndsWhenAsked.servedUntil_eq
    (ends : EndsWhenAsked log loop)
    (serves : loop.hasEnded = false)
    (now : Nat) :
    servedUntil log now = now := by
  cases ended : firstAt? .ended log with
  | none => rw [servedUntil, ended, Option.getD_none]
  | some instant =>
      have hasEnded := ends.hasEnded
      rw [serves, ended] at hasEnded
      cases hasEnded

/-- One that has ended does not serve any longer when time goes on. -/
theorem EndsWhenAsked.servedUntil_of_hasEnded
    (ends : EndsWhenAsked log loop)
    (hasEnded : loop.hasEnded = true)
    (now later : Nat) :
    servedUntil log later = servedUntil log now := by
  rw [ends.hasEnded] at hasEnded
  obtain ⟨instant, ended⟩ := Option.isSome_iff_exists.mp hasEnded
  rw [servedUntil, servedUntil, ended, Option.getD_some, Option.getD_some]

theorem OnTime.slept
    {span : Nat}
    (onTime : OnTime start log loop)
    (ends : EndsWhenAsked log loop)
    (sleeps : loop.MaySleep span) :
    OnTime start log { loop with now := loop.now + span } := by
  have limits : loop.saves.length * start.period ≤ servedUntil log (loop.now + span) ∧
      servedUntil log (loop.now + span) ≤ (loop.saves.length + 1) * start.period := by
    cases serves : loop.hasEnded with
    | true =>
        rw [ends.servedUntil_of_hasEnded serves loop.now]
        exact ⟨onTime.reached, onTime.next⟩
    | false =>
        have reached := onTime.reached
        rw [ends.servedUntil_eq serves] at reached ⊢
        rcases sleeps with hasEnded | ⟨-, inTime⟩
        · rw [serves] at hasEnded
          cases hasEnded
        · exact ⟨Nat.le_add_right_of_le reached, onTime.due ▸ inTime⟩
  exact ⟨onTime.period, onTime.saves, onTime.instants, onTime.due, limits.1, limits.2⟩

/-- What is neither a tick nor the end leaves a loop on time. -/
theorem OnTime.of_other
    (onTime : OnTime start log loop)
    (step : Step loop deed next)
    (notTick : deed ≠ .ticked)
    (notEnd : deed ≠ .ended) :
    OnTime start (log ++ [(loop.now, deed)]) next := by
  have same : next.saves = loop.saves ∧ next.due = loop.due ∧ next.period = loop.period := by
    cases step with
    | ticked => exact absurd rfl notTick
    | _ => exact ⟨rfl, rfl, rfl⟩
  obtain ⟨saves, due, period⟩ := same
  have told : savesIn start.store (log ++ [(loop.now, deed)]) = savesIn start.store log := by
    rw [savesIn_concat, if_neg notTick, List.append_nil]
  have serves : servedUntil (log ++ [(loop.now, deed)]) next.now = servedUntil log loop.now := by
    rw [servedUntil, firstAt?_concat, if_neg notEnd, Option.or_none, step.now_eq, servedUntil]
  refine ⟨period.trans onTime.period, ?_, ?_, ?_, ?_, ?_⟩
  · rw [saves, told, onTime.saves]
  · rw [saves, onTime.instants]
  · rw [saves, due, onTime.due]
  · rw [saves, serves]
    exact onTime.reached
  · rw [saves, serves]
    exact onTime.next

/-- A tick comes when it is due, and so the next one is due a period later. -/
theorem OnTime.ticked
    (onTime : OnTime start log loop)
    (ends : EndsWhenAsked log loop)
    (told : Told start log loop)
    (serves : loop.hasEnded = false)
    (isDue : loop.due ≤ loop.now)
    (files : Files.Tree) :
    OnTime start (log ++ [(loop.now, .ticked)])
      { loop with
        files
        due := loop.nextDue
        saves := (loop.now, loop.store) :: loop.saves } := by
  -- Time has not passed the tick, so the tick is made when it is due and moves no other one.
  have inTime : loop.now ≤ loop.due := by
    rw [onTime.due]
    exact ends.servedUntil_eq serves loop.now ▸ onTime.next
  have now : loop.now = (loop.saves.length + 1) * start.period :=
    (Nat.le_antisymm inTime isDue).trans onTime.due
  have stillServes : servedUntil (log ++ [(loop.now, .ticked)]) loop.now = loop.now := by
    rw [servedUntil, firstAt?_concat, if_neg nofun, Option.or_none]
    exact ends.servedUntil_eq serves loop.now
  refine ⟨onTime.period, ?_, ?_, ?_, ?_, ?_⟩
  · rw [List.reverse_cons, onTime.saves, savesIn_concat, if_pos rfl, told.store]
  · rw [List.reverse_cons, List.map_append, onTime.instants, List.length_cons, List.range_succ,
      List.map_append, List.map_singleton, List.map_singleton, now]
  · change loop.nextDue = (loop.saves.length + 1 + 1) * start.period
    rw [nextDue_of_le inTime, onTime.due, onTime.period, ← Nat.succ_mul]
  · rw [stillServes]
    exact Nat.le_of_eq now.symm
  · rw [stillServes, now]
    exact Nat.mul_le_mul_right _ (Nat.le_succ _)

/-- A loop that ends has been on time until then. -/
theorem OnTime.ended
    (onTime : OnTime start log loop)
    (ends : EndsWhenAsked log loop)
    (serves : loop.hasEnded = false) :
    OnTime start (log ++ [(loop.now, .ended)]) { loop with hasEnded := true } := by
  have told : savesIn start.store (log ++ [(loop.now, .ended)]) = savesIn start.store log := by
    rw [savesIn_concat, if_neg nofun, List.append_nil]
  have served : servedUntil (log ++ [(loop.now, .ended)]) loop.now = servedUntil log loop.now := by
    rw [servedUntil, firstAt?_concat, if_pos rfl, ends.servedUntil_eq serves]
    cases ended : firstAt? .ended log with
    | none => rfl
    | some instant =>
        have same := ends.servedUntil_eq serves loop.now
        rw [servedUntil, ended] at same
        exact same
  exact ⟨onTime.period, onTime.saves.trans told.symm, onTime.instants, onTime.due,
    served ▸ onTime.reached, served ▸ onTime.next⟩

theorem OnTime.did
    (onTime : OnTime start log loop)
    (ends : EndsWhenAsked log loop)
    (told : Told start log loop)
    (step : Step loop deed next) :
    OnTime start (log ++ [(loop.now, deed)]) next := by
  cases step with
  | ticked listing files serves isDue => exact onTime.ticked ends told serves isDue files
  | ended stops serves => exact onTime.ended ends serves
  | updated update => exact onTime.of_other (.updated update) nofun nofun
  | saved listing files saves => exact onTime.of_other (.saved listing files saves) nofun nofun
  | removed files removes => exact onTime.of_other (.removed files removes) nofun nofun
  | missed missing => exact onTime.of_other (.missed missing) nofun nofun
  | asked => exact onTime.of_other .asked nofun nofun

section Start

variable {path : String} {period leeway : Nat} {store : Store} {files : Files.Tree}

theorem onTime_of_runs
    (runs : Runs { path, period, leeway, store, files } log loop) :
    OnTime { path, period, leeway, store, files } log loop := by
  induction runs with
  | start =>
      refine ⟨rfl, rfl, rfl, (Nat.one_mul period).symm, ?_, Nat.zero_le _⟩
      exact Nat.le_of_eq (Nat.zero_mul period)
  | slept span runs sleeps onTime => exact onTime.slept (endsWhenAsked_of_runs runs rfl rfl) sleeps
  | did runs step onTime =>
      exact onTime.did (endsWhenAsked_of_runs runs rfl rfl) (told_of_runs runs) step

/-- A loop that serves has not left out a tick. -/
theorem le_due_of_runs
    (runs : Runs { path, period, leeway, store, files } log loop)
    (serves : loop.hasEnded = false) :
    loop.now ≤ loop.due := by
  have onTime := onTime_of_runs runs
  have next := onTime.next
  rw [(endsWhenAsked_of_runs runs rfl rfl).servedUntil_eq serves] at next
  exact onTime.due ▸ next

end Start

end SaveLoop
end Telemetry
