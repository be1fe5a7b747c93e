import TTS.Mutex
import TTS.Transition

/-!
# The worker thread of the service

`AsyncWorker` with `post` and the body of the thread it starts, one step for
each access to what they share. A post is made by one of the callers, who wait
for one another, or by a task that is running. The states also record what has
been posted and run.
-/

namespace TTS

open Transition

/-- Who executes `post`. -/
inductive Poster
  | caller
  | thread (i : Nat)
  deriving DecidableEq

def Poster.isCaller : Poster → Bool
  | .caller => true
  | .thread _ => false

/-- Where `post` is. -/
inductive PostPc (Task : Type)
  | lock (task : Task)
  | push (task : Task)
  | readRunning
  | unlock (running : Bool)
  | decide (running : Bool)
  | cleanup
  | join
  | forget
  | create
  | assign (i : Nat)

/-- Where a started thread is, `run` with the post its task is making. -/
inductive WorkerPc (Task : Type)
  | lock
  | setRunning
  | test
  | take
  | unlockTask (task : Task)
  | run (task : Task) (post : Option (PostPc Task))
  | relock
  | clearRunning
  | unlockLast
  | ended

structure AsyncWorker (Task : Type) where
  thread : Option Nat
  running : Bool
  tasklist : List Task
  mutex : Option Poster
  caller : Option (PostPc Task)
  threads : List (WorkerPc Task)
  called : List Task
  reposted : List Task
  posted : List (Poster × Task)
  started : List Task
  finished : List Task

namespace AsyncWorker

variable {Task : Type}

inductive Label (Task : Type)
  | call (task : Task)
  | caller
  /-- A thread goes on; where its task is running, the task returns. -/
  | worker (i : Nat)
  | repost (i : Nat) (task : Task)

/-- `m_running` is not set by the constructor; here it starts out as false. -/
def new : AsyncWorker Task := ⟨none, false, [], none, none, [], [], [], [], [], []⟩

/-- Where `post` goes on, `none` at its end. -/
def postStep (s : AsyncWorker Task) (me : Poster) : PostPc Task → Option (AsyncWorker Task × Option (PostPc Task))
  | .lock task => if s.mutex = none then some ({ s with mutex := some me }, some (.push task)) else none
  | .push task =>
    some ({ s with tasklist := s.tasklist ++ [task], posted := s.posted ++ [(me, task)] }, some .readRunning)
  | .readRunning => some (s, some (.unlock s.running))
  | .unlock running => some ({ s with mutex := none }, some (.decide running))
  | .decide running => some (s, if running then none else some .cleanup)
  | .cleanup => some (s, some (if s.thread = none then .create else .join))
  | .join =>
    match s.thread.bind fun i => s.threads[i]? with
    | some .ended => some (s, some .forget)
    | _ => none
  | .forget => some ({ s with thread := none }, some .create)
  | .create => some ({ s with threads := s.threads ++ [.lock] }, some (.assign s.threads.length))
  | .assign i => some ({ s with thread := some i }, none)

def threadStep (s : AsyncWorker Task) (i : Nat) : WorkerPc Task → Option (AsyncWorker Task × WorkerPc Task)
  | .lock => if s.mutex = none then some ({ s with mutex := some (.thread i) }, .setRunning) else none
  | .setRunning => some ({ s with running := true }, .test)
  | .test => some (s, if s.tasklist.isEmpty then .clearRunning else .take)
  | .take =>
    match s.tasklist with
    | task :: rest => some ({ s with tasklist := rest }, .unlockTask task)
    | [] => none
  | .unlockTask task => some ({ s with mutex := none, started := s.started ++ [task] }, .run task none)
  | .run task none => some ({ s with finished := s.finished ++ [task] }, .relock)
  | .run task (some post) => (s.postStep (.thread i) post).map fun r => (r.1, .run task r.2)
  | .relock => if s.mutex = none then some ({ s with mutex := some (.thread i) }, .test) else none
  | .clearRunning => some ({ s with running := false }, .unlockLast)
  | .unlockLast => some ({ s with mutex := none }, .ended)
  | .ended => none

def step (s : AsyncWorker Task) : Label Task → Option (AsyncWorker Task)
  | .call task =>
    if s.caller.isSome then none else some { s with caller := some (.lock task), called := s.called ++ [task] }
  | .caller => s.caller.bind fun post => (s.postStep .caller post).map fun r => { r.1 with caller := r.2 }
  | .worker i =>
    s.threads[i]?.bind fun pc => (s.threadStep i pc).map fun r => { r.1 with threads := r.1.threads.set i r.2 }
  | .repost i task =>
    match s.threads[i]? with
    | some (.run current none) => some { s with
        threads := s.threads.set i (.run current (some (.lock task)))
        reposted := s.reposted ++ [task] }
    | _ => none

def fromCallers (s : AsyncWorker Task) : List Task := (s.posted.filter fun e => e.1.isCaller).map Prod.snd

def fromTasks (s : AsyncWorker Task) : List Task := (s.posted.filter fun e => !e.1.isCaller).map Prod.snd

def machine : Machine (AsyncWorker Task) (Label Task) where
  init s := s = new
  step := step

end AsyncWorker

/-! ## What a place in the code says -/

namespace PostPc

variable {Task : Type}

/-- The mutex is held here. -/
@[simp] def critical : PostPc Task → Bool
  | .push _ | .readRunning | .unlock _ => true
  | _ => false

/-- A thread will be started, unless `m_running` is yet to be read. -/
@[simp] def starts (running : Bool) : PostPc Task → Bool
  | .readRunning => !running
  | .unlock r | .decide r => !r
  | .cleanup | .join | .forget | .create => true
  | _ => false

/-- On the way to return without a thread being started. -/
@[simp] def quick : PostPc Task → Bool
  | .lock _ | .push _ | .readRunning => true
  | .unlock r | .decide r => r
  | _ => false

@[simp] def pending : PostPc Task → List Task
  | .lock task | .push task => [task]
  | _ => []

end PostPc

namespace WorkerPc

variable {Task : Type}

@[simp] def critical : WorkerPc Task → Bool
  | .setRunning | .test | .take | .unlockTask _ | .clearRunning | .unlockLast => true
  | .run _ post => post.any PostPc.critical
  | _ => false

/-- `m_running` as this thread has left it. -/
@[simp] def running : WorkerPc Task → Bool
  | .test | .take | .unlockTask _ | .run _ _ | .relock | .clearRunning => true
  | _ => false

/-- The final check of the list is still to come. -/
@[simp] def awake : WorkerPc Task → Bool
  | .clearRunning | .unlockLast | .ended => false
  | _ => true

@[simp] def inHand : WorkerPc Task → List Task
  | .unlockTask task => [task]
  | _ => []

@[simp] def current : WorkerPc Task → List Task
  | .run task _ => [task]
  | _ => []

@[simp] def posting : WorkerPc Task → Option (PostPc Task)
  | .run _ post => post
  | _ => none

end WorkerPc

/-! ## How many steps are left -/

section

variable {Task : Type}

/-- Also for the task that is to be pushed and for the thread that is to be started. -/
@[simp] def PostPc.weight : PostPc Task → Nat
  | .lock _ => 20
  | .push _ => 19
  | .readRunning => 13
  | .unlock _ => 12
  | .decide _ => 11
  | .cleanup => 10
  | .join => 9
  | .forget => 8
  | .create => 7
  | .assign _ => 1

/-- A task in the list counts five. -/
@[simp] def WorkerPc.weight : WorkerPc Task → Nat
  | .lock => 5
  | .setRunning => 4
  | .test => 3
  | .take => 2
  | .unlockTask _ => 6
  | .run _ post => 5 + (post.map PostPc.weight).getD 0
  | .relock => 4
  | .clearRunning => 2
  | .unlockLast => 1
  | .ended => 0

def totalWeight : List (WorkerPc Task) → Nat
  | [] => 0
  | pc :: threads => pc.weight + totalWeight threads

theorem totalWeight_append (threads : List (WorkerPc Task)) (pc : WorkerPc Task) :
    totalWeight (threads ++ [pc]) = totalWeight threads + pc.weight := by
  induction threads with
  | nil => simp only [List.nil_append, totalWeight, Nat.zero_add, Nat.add_zero]
  | cons p threads ih => simp only [List.cons_append, totalWeight, ih, Nat.add_assoc]

def AsyncWorker.weight (s : AsyncWorker Task) : Nat :=
  (s.caller.map PostPc.weight).getD 0 + totalWeight s.threads + 5 * s.tasklist.length

end

namespace AsyncWorker

variable {Task : Type}

/-! ## What a step of `post` does -/

/-- The steps of `post`, with what the state says where they are made. -/
inductive PostMoves (s : AsyncWorker Task) (me : Poster) :
    PostPc Task → AsyncWorker Task → Option (PostPc Task) → Prop
  | lock (task : Task) (hfree : s.mutex = none) :
    PostMoves s me (.lock task) { s with mutex := some me } (some (.push task))
  | push (task : Task) :
    PostMoves s me (.push task) { s with tasklist := s.tasklist ++ [task], posted := s.posted ++ [(me, task)] }
      (some .readRunning)
  | readRunning : PostMoves s me .readRunning s (some (.unlock s.running))
  | unlock (running : Bool) : PostMoves s me (.unlock running) { s with mutex := none } (some (.decide running))
  | leave : PostMoves s me (.decide true) s none
  | goOn : PostMoves s me (.decide false) s (some .cleanup)
  | noThread (hthread : s.thread = none) : PostMoves s me .cleanup s (some .create)
  | oldThread (hthread : s.thread ≠ none) : PostMoves s me .cleanup s (some .join)
  | join (i : Nat) (hthread : s.thread = some i) (hended : s.threads[i]? = some .ended) :
    PostMoves s me .join s (some .forget)
  | forget : PostMoves s me .forget { s with thread := none } (some .create)
  | create : PostMoves s me .create { s with threads := s.threads ++ [.lock] } (some (.assign s.threads.length))
  | assign (i : Nat) : PostMoves s me (.assign i) { s with thread := some i } none

theorem postStep_moves {s : AsyncWorker Task} {me : Poster} {p : PostPc Task} {r : AsyncWorker Task × Option (PostPc Task)}
    (h : s.postStep me p = some r) : PostMoves s me p r.1 r.2 := by
  cases p with
  | lock task =>
    obtain ⟨hfree, h⟩ := Option.ite_none_right_eq_some.mp h
    cases h
    exact .lock task hfree
  | decide running =>
    cases h
    cases running with
    | true => exact .leave
    | false => exact .goOn
  | cleanup =>
    cases h
    by_cases hthread : s.thread = none
    · simp only [hthread, if_true]
      exact .noThread hthread
    · simp only [hthread, if_false]
      exact .oldThread hthread
  | join =>
    simp only [postStep] at h
    split at h
    · rename_i hended
      obtain ⟨i, hi, hended⟩ := Option.bind_eq_some_iff.mp hended
      cases h
      exact .join i hi hended
    · cases h
  | push task =>
    cases h
    exact .push task
  | readRunning =>
    cases h
    exact .readRunning
  | unlock running =>
    cases h
    exact .unlock running
  | forget =>
    cases h
    exact .forget
  | create =>
    cases h
    exact .create
  | assign i =>
    cases h
    exact .assign i

namespace PostMoves

variable {s t : AsyncWorker Task} {me : Poster} {p : PostPc Task} {q : Option (PostPc Task)}

/-- The rest of the state is not touched by `post`. -/
theorem frame (h : PostMoves s me p t q) :
    t.caller = s.caller ∧ t.running = s.running ∧ t.called = s.called ∧ t.reposted = s.reposted ∧
      t.started = s.started ∧ t.finished = s.finished := by
  cases h <;> simp

theorem mutex (h : PostMoves s me p t q) : Mutex.Move me p.critical (q.any PostPc.critical) s.mutex t.mutex := by
  cases h with
  | lock task hfree =>
    rw [hfree]
    exact .acquire
  | unlock running => exact .release s.mutex
  | push | readRunning => exact .stay true s.mutex
  | _ => exact .stay false s.mutex

theorem posts (h : PostMoves s me p t q) :
    ∃ tasks, p.pending = tasks ++ q.toList.flatMap PostPc.pending ∧ t.tasklist = s.tasklist ++ tasks ∧
      t.posted = s.posted ++ tasks.map (me, ·) := by
  cases h with
  | push task => exact ⟨[task], by simp⟩
  | _ => exact ⟨[], by simp⟩

theorem threads_of_ne (h : PostMoves s me p t q) (hne : p ≠ .create) : t.threads = s.threads := by
  cases h with
  | create => exact absurd rfl hne
  | _ => rfl

/-- Only at its end does `post` change the threads or the pointer. -/
theorem threads (h : PostMoves s me p t q) (hquick : p.quick = true) (hrunning : s.running = true) :
    t.threads = s.threads ∧ t.thread = s.thread ∧ q.all PostPc.quick = true := by
  cases h with
  | lock | push | leave => simp
  | readRunning => simp [hrunning]
  | unlock running => simpa using hquick
  | _ => cases hquick

theorem weight (h : PostMoves s me p t q) :
    (q.map PostPc.weight).getD 0 + totalWeight t.threads + 5 * t.tasklist.length <
      p.weight + totalWeight s.threads + 5 * s.tasklist.length := by
  cases h with
  | push task =>
    simp only [Option.map_some, Option.getD_some, PostPc.weight, List.length_append, List.length_singleton]
    omega
  | create =>
    simp only [Option.map_some, Option.getD_some, PostPc.weight, totalWeight_append, WorkerPc.weight]
    omega
  | _ => simp

end PostMoves

/-! ## What a step of a thread does -/

inductive ThreadMoves (s : AsyncWorker Task) (i : Nat) : WorkerPc Task → AsyncWorker Task → WorkerPc Task → Prop
  | lock (hfree : s.mutex = none) : ThreadMoves s i .lock { s with mutex := some (.thread i) } .setRunning
  | setRunning : ThreadMoves s i .setRunning { s with running := true } .test
  | pass (hnil : s.tasklist = []) : ThreadMoves s i .test s .clearRunning
  | stay (htasks : s.tasklist ≠ []) : ThreadMoves s i .test s .take
  | take (task : Task) (rest : List Task) (htasks : s.tasklist = task :: rest) :
    ThreadMoves s i .take { s with tasklist := rest } (.unlockTask task)
  | unlockTask (task : Task) :
    ThreadMoves s i (.unlockTask task) { s with mutex := none, started := s.started ++ [task] } (.run task none)
  | finish (task : Task) : ThreadMoves s i (.run task none) { s with finished := s.finished ++ [task] } .relock
  | post (task : Task) {p : PostPc Task} {t : AsyncWorker Task} {q : Option (PostPc Task)}
    (hpost : PostMoves s (.thread i) p t q) : ThreadMoves s i (.run task (some p)) t (.run task q)
  | relock (hfree : s.mutex = none) : ThreadMoves s i .relock { s with mutex := some (.thread i) } .test
  | clearRunning : ThreadMoves s i .clearRunning { s with running := false } .unlockLast
  | unlockLast : ThreadMoves s i .unlockLast { s with mutex := none } .ended

theorem threadStep_moves {s : AsyncWorker Task} {i : Nat} {pc : WorkerPc Task} {r : AsyncWorker Task × WorkerPc Task}
    (h : s.threadStep i pc = some r) : ThreadMoves s i pc r.1 r.2 := by
  cases pc with
  | lock =>
    obtain ⟨hfree, h⟩ := Option.ite_none_right_eq_some.mp h
    cases h
    exact .lock hfree
  | relock =>
    obtain ⟨hfree, h⟩ := Option.ite_none_right_eq_some.mp h
    cases h
    exact .relock hfree
  | test =>
    cases h
    by_cases hnil : s.tasklist = []
    · simp only [hnil, List.isEmpty_nil, if_true]
      exact .pass hnil
    · simp only [List.isEmpty_iff, hnil, if_false]
      exact .stay hnil
  | take =>
    simp only [threadStep] at h
    split at h
    · rename_i task rest htasks
      cases h
      exact .take task rest htasks
    · cases h
  | run task post =>
    cases post with
    | none =>
      cases h
      exact .finish task
    | some p =>
      obtain ⟨r, hr, rfl⟩ := Option.map_eq_some_iff.mp h
      exact .post task (postStep_moves hr)
  | setRunning =>
    cases h
    exact .setRunning
  | unlockTask task =>
    cases h
    exact .unlockTask task
  | clearRunning =>
    cases h
    exact .clearRunning
  | unlockLast =>
    cases h
    exact .unlockLast
  | ended => cases h

namespace ThreadMoves

variable {s t : AsyncWorker Task} {i : Nat} {pc pc' : WorkerPc Task}

theorem frame (h : ThreadMoves s i pc t pc') : t.caller = s.caller ∧ t.called = s.called ∧ t.reposted = s.reposted := by
  cases h with
  | post task hpost =>
    obtain ⟨hcaller, -, hcalled, hreposted, -, -⟩ := hpost.frame
    exact ⟨hcaller, hcalled, hreposted⟩
  | _ => simp

theorem mutex (h : ThreadMoves s i pc t pc') : Mutex.Move (.thread i) pc.critical pc'.critical s.mutex t.mutex := by
  cases h with
  | lock hfree | relock hfree =>
    rw [hfree]
    exact .acquire
  | unlockTask | unlockLast => exact .release s.mutex
  | finish => exact .stay false s.mutex
  | post task hpost => exact hpost.mutex
  | _ => exact .stay true s.mutex

/-- While `m_running` is as the thread has left it, the thread starts no other one. -/
theorem threads (h : ThreadMoves s i pc t pc') (hrunning : s.running = pc.running)
    (hquick : pc.posting.all PostPc.quick = true) :
    t.threads = s.threads ∧ t.thread = s.thread ∧ t.running = pc'.running ∧ pc'.posting.all PostPc.quick = true := by
  cases h with
  | post task hpost =>
    obtain ⟨hthreads, hthread, hquick⟩ := hpost.threads hquick hrunning
    exact ⟨hthreads, hthread, hpost.frame.2.1.trans hrunning, hquick⟩
  | setRunning | clearRunning => simp
  | _ => simpa using hrunning

/-- The tasks a thread takes, starts and finishes, and those it pushes itself. -/
theorem tasks (h : ThreadMoves s i pc t pc') :
    ∃ tasks, pc.posting.toList.flatMap PostPc.pending = tasks ++ pc'.posting.toList.flatMap PostPc.pending ∧
      t.posted = s.posted ++ tasks.map (.thread i, ·) ∧
      t.started ++ (pc'.inHand ++ t.tasklist) = s.started ++ (pc.inHand ++ s.tasklist) ++ tasks ∧
      (s.started = s.finished ++ pc.current → t.started = t.finished ++ pc'.current) := by
  cases h with
  | post task hpost =>
    obtain ⟨tasks, hpending, htasklist, hposted⟩ := hpost.posts
    obtain ⟨-, -, -, -, hstarted, hfinished⟩ := hpost.frame
    refine ⟨tasks, ?_, hposted, ?_, ?_⟩
    · simpa using hpending
    · simp [htasklist, hstarted]
    · intro hbegun
      rw [hstarted, hfinished, hbegun]
      rfl
  | take task rest htasks => exact ⟨[], by simp [htasks]⟩
  | _ => exact ⟨[], by simp⟩

/-- The check is passed with the list empty only; after it the list is left alone. -/
theorem awake (h : ThreadMoves s i pc t pc') (htasks : t.tasklist ≠ []) :
    pc'.awake = true ∨ pc.awake = false ∧ t.tasklist = s.tasklist ∧ (t.running = s.running ∨ t.running = false) := by
  cases h with
  | pass hnil => exact absurd hnil htasks
  | _ => simp

theorem take_tasks (h : ThreadMoves s i pc t pc') (htake : pc' = .take) : t.tasklist ≠ [] := by
  cases h with
  | stay htasks => exact htasks
  | _ => cases htake

theorem weight (h : ThreadMoves s i pc t pc') (hthreads : t.threads = s.threads) :
    pc'.weight + 5 * t.tasklist.length < pc.weight + 5 * s.tasklist.length := by
  cases h with
  | take task rest htasks =>
    simp only [WorkerPc.weight, htasks, List.length_cons]
    omega
  | post task hpost =>
    have hweight := hpost.weight
    rw [hthreads] at hweight
    simp only [WorkerPc.weight, Option.map_some, Option.getD_some]
    omega
  | _ => simp

end ThreadMoves

end AsyncWorker

end TTS
