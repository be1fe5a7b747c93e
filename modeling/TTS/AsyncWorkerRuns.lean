import TTS.AsyncWorker

/-!
# Runs of the worker thread

Only the thread started last is alive. A post that finds it running leaves the
task to it, and it is then still to look at the list; a post that does not
waits for it to end and starts another one. So the tasks are run one at a time,
in the order of posting, and none is left behind.
-/

namespace TTS

open Transition

variable {Task : Type}

/-! ## The last thread -/

/-- All threads but the last have ended. Where there is none the last counts as ended. -/
def Top (threads : List (WorkerPc Task)) (pc : WorkerPc Task) : Prop :=
  threads = [] ∧ pc = .ended ∨ ∃ n, threads = List.replicate n .ended ++ [pc]

namespace Top

variable {threads : List (WorkerPc Task)} {pc p : WorkerPc Task} {i : Nat}

theorem last (h : Top threads pc) (hi : threads.length = i + 1) : threads[i]? = some pc := by
  obtain ⟨rfl, -⟩ | ⟨n, rfl⟩ := h
  · cases hi
  · obtain rfl : n = i := by simpa using hi
    simp

theorem get (h : Top threads pc) (hi : threads[i]? = some p) (hp : p ≠ .ended) : threads.length = i + 1 ∧ p = pc := by
  obtain ⟨rfl, -⟩ | ⟨n, rfl⟩ := h
  · cases hi
  · by_cases hin : i < n
    · rw [List.getElem?_append_left (by simpa using hin), List.getElem?_replicate, if_pos hin] at hi
      exact absurd (Option.some.inj hi).symm hp
    · obtain ⟨hlt, -⟩ := List.getElem?_eq_some_iff.mp hi
      have heq : i = n := by
        simp at hlt
        omega
      subst heq
      simpa [eq_comm] using hi

theorem set (h : Top threads pc) (hi : threads.length = i + 1) (p : WorkerPc Task) : Top (threads.set i p) p := by
  obtain ⟨rfl, -⟩ | ⟨n, rfl⟩ := h
  · cases hi
  · obtain rfl : n = i := by simpa using hi
    exact .inr ⟨n, by simp⟩

theorem push (h : Top threads .ended) (p : WorkerPc Task) : Top (threads ++ [p]) p := by
  obtain ⟨rfl, -⟩ | ⟨n, rfl⟩ := h
  · exact .inr ⟨0, rfl⟩
  · exact .inr ⟨n + 1, by rw [List.replicate_succ']⟩

theorem weight (h : Top threads pc) : totalWeight threads = pc.weight := by
  obtain ⟨rfl, rfl⟩ | ⟨n, rfl⟩ := h
  · rfl
  · rw [totalWeight_append]
    have hended : totalWeight (List.replicate n (WorkerPc.ended : WorkerPc Task)) = 0 := by
      induction n with
      | zero => rfl
      | succ n ih => rw [List.replicate_succ, totalWeight, ih, WorkerPc.weight]
    rw [hended, Nat.zero_add]

theorem current (h : Top threads pc) : threads.flatMap WorkerPc.current = pc.current := by
  obtain ⟨rfl, rfl⟩ | ⟨n, rfl⟩ := h
  · rfl
  · simp

end Top

namespace AsyncWorker

/-! ## The invariant -/

def critical (s : AsyncWorker Task) : Poster → Bool
  | .caller => s.caller.any PostPc.critical
  | .thread i => s.threads[i]?.any WorkerPc.critical

/-- `m_thread` is the last thread, except while that is being replaced. -/
def Linked (s : AsyncWorker Task) (pc : WorkerPc Task) : Prop :=
  match s.caller with
  | some .join => s.thread ≠ none ∧ s.threads.length = s.thread.elim 0 (· + 1)
  | some .forget => pc = .ended
  | some .create => pc = .ended ∧ s.thread = none
  | some (.assign i) => s.threads.length = i + 1 ∧ s.thread = none
  | _ => s.threads.length = s.thread.elim 0 (· + 1)

/-- The thread started last is at `pc`. -/
structure Inv (s : AsyncWorker Task) (pc : WorkerPc Task) : Prop where
  top : Top s.threads pc
  guards : Mutex.Guards s.mutex s.critical
  running : s.running = pc.running
  quick : pc.posting.all PostPc.quick = true
  linked : Linked s pc
  /-- A task in the list is looked at by the last thread, or by the one that the caller will start. -/
  awake : s.tasklist ≠ [] → pc.awake = true ∨ s.caller.any (PostPc.starts s.running) = true
  take : pc = .take → s.tasklist ≠ []
  tasks : s.posted.map Prod.snd = s.started ++ (pc.inHand ++ s.tasklist)
  begun : s.started = s.finished ++ pc.current
  called : s.called = s.fromCallers ++ s.caller.toList.flatMap PostPc.pending
  reposted : s.reposted = s.fromTasks ++ pc.posting.toList.flatMap PostPc.pending

/-- A step, seen from the last thread. -/
inductive Moves (s : AsyncWorker Task) (pc : WorkerPc Task) : Label Task → AsyncWorker Task → WorkerPc Task → Prop
  | call {task : Task} (hcaller : s.caller = none) :
    Moves s pc (.call task) { s with caller := some (.lock task), called := s.called ++ [task] } pc
  | caller {p : PostPc Task} {t : AsyncWorker Task} {q : Option (PostPc Task)} (hp : s.caller = some p) (hne : p ≠ .create)
    (hstep : PostMoves s .caller p t q) : Moves s pc .caller { t with caller := q } pc
  | create (hp : s.caller = some .create) :
    Moves s pc .caller { s with threads := s.threads ++ [.lock], caller := some (.assign s.threads.length) } .lock
  | worker {i : Nat} {t : AsyncWorker Task} {pc' : WorkerPc Task} (hi : s.threads.length = i + 1)
    (hstep : ThreadMoves s i pc t pc') : Moves s pc (.worker i) { t with threads := t.threads.set i pc' } pc'
  | repost {i : Nat} {task current : Task} (hi : s.threads.length = i + 1) (hpc : pc = .run current none) :
    Moves s pc (.repost i task)
      { s with threads := s.threads.set i (.run current (some (.lock task))), reposted := s.reposted ++ [task] }
      (.run current (some (.lock task)))

variable {s t : AsyncWorker Task} {pc pc' : WorkerPc Task} {a : Label Task}

theorem Inv.moves (h : Inv s pc) (hstep : s.step a = some t) : ∃ pc', Moves s pc a t pc' := by
  cases a with
  | call task =>
    simp only [step] at hstep
    split at hstep
    · cases hstep
    · rename_i hcaller
      cases hstep
      exact ⟨pc, .call (by simpa using hcaller)⟩
  | caller =>
    obtain ⟨p, hp, hstep⟩ := Option.bind_eq_some_iff.mp hstep
    obtain ⟨r, hr, rfl⟩ := Option.map_eq_some_iff.mp hstep
    by_cases hcreate : p = .create
    · subst hcreate
      cases hr
      exact ⟨.lock, .create hp⟩
    · exact ⟨pc, .caller hp hcreate (postStep_moves hr)⟩
  | worker i =>
    obtain ⟨p, hp, hstep⟩ := Option.bind_eq_some_iff.mp hstep
    obtain ⟨r, hr, rfl⟩ := Option.map_eq_some_iff.mp hstep
    have hne : p ≠ .ended := by
      intro hended
      subst hended
      cases hr
    obtain ⟨hi, rfl⟩ := h.top.get hp hne
    exact ⟨r.2, .worker hi (threadStep_moves hr)⟩
  | repost i task =>
    simp only [step] at hstep
    split at hstep
    · rename_i current hp
      cases hstep
      obtain ⟨hi, hpc⟩ := h.top.get hp (by simp)
      exact ⟨_, .repost hi hpc.symm⟩
    · cases hstep

/-! ## The invariant is kept -/

theorem fromCallers_append {tasks : List Task} {me : Poster} (h : t.posted = s.posted ++ tasks.map (me, ·)) :
    t.fromCallers = s.fromCallers ++ if me.isCaller then tasks else [] := by
  unfold fromCallers
  rw [h, List.filter_append, List.map_append, List.filter_map]
  cases hme : me.isCaller <;> simp [Function.comp_def, hme]

theorem fromTasks_append {tasks : List Task} {me : Poster} (h : t.posted = s.posted ++ tasks.map (me, ·)) :
    t.fromTasks = s.fromTasks ++ if me.isCaller then [] else tasks := by
  unfold fromTasks
  rw [h, List.filter_append, List.map_append, List.filter_map]
  cases hme : me.isCaller <;> simp [Function.comp_def, hme]

theorem awake_of_running (h : pc.running = true) (hc : pc.critical = false) : pc.awake = true := by
  cases pc with
  | run | relock => rfl
  | test | take | unlockTask | clearRunning => cases hc
  | _ => cases h

theorem starts_false {caller : Option (PostPc Task)} {running : Bool} (h : caller.any (PostPc.starts running) = true) :
    caller.any (PostPc.starts false) = true := by
  cases caller with
  | none => cases h
  | some p =>
    cases p with
    | readRunning => rfl
    | _ => exact h

theorem Inv.not_critical (h : Inv s pc) (hcaller : s.caller.any PostPc.critical = true) : pc.critical = false := by
  rw [← Bool.not_eq_true]
  intro hpc
  cases hn : s.threads.length with
  | zero =>
    obtain ⟨-, rfl⟩ | ⟨n, hthreads⟩ := h.top
    · cases hpc
    · simp [hthreads] at hn
  | succ i =>
    have hthread : s.critical (.thread i) = true := by simp only [critical, h.top.last hn, Option.any_some, hpc]
    cases h.guards.unique (i := .caller) (j := .thread i) hcaller hthread

theorem Inv.caller_linked (h : Inv s pc) {p : PostPc Task} {q : Option (PostPc Task)} (hp : s.caller = some p)
    (hne : p ≠ .create) (hstep : PostMoves s .caller p t q) : Linked { t with caller := q } pc := by
  have hlinked := h.linked
  unfold Linked at hlinked
  rw [hp] at hlinked
  cases hstep with
  | noThread hthread =>
    rw [hthread] at hlinked
    obtain ⟨-, hpc⟩ | ⟨n, hthreads⟩ := h.top
    · simp [Linked, hthread, hpc]
    · simp [hthreads] at hlinked
  | oldThread hthread => exact ⟨hthread, hlinked⟩
  | join i hthread hended =>
    have hlen := hlinked.2
    rw [hthread] at hlen
    rw [h.top.last hlen] at hended
    exact Option.some.inj hended
  | forget => exact ⟨hlinked, rfl⟩
  | create => exact absurd rfl hne
  | assign i => exact hlinked.1
  | _ => exact hlinked

theorem Inv.caller_awake (h : Inv s pc) {p : PostPc Task} {q : Option (PostPc Task)} (hp : s.caller = some p)
    (hne : p ≠ .create) (hstep : PostMoves s .caller p t q) (htasks : t.tasklist ≠ []) :
    pc.awake = true ∨ q.any (PostPc.starts s.running) = true := by
  have hawake := h.awake
  rw [hp] at hawake
  cases hstep with
  | push task =>
    cases hrunning : s.running with
    | false => simp
    | true =>
      rw [h.running] at hrunning
      exact .inl (awake_of_running hrunning (h.not_critical (by simp [hp])))
  | goOn | noThread | oldThread | join | forget => simp
  | create => exact absurd rfl hne
  | _ => simpa using hawake htasks

theorem Inv.call (h : Inv s pc) {task : Task} (hcaller : s.caller = none) :
    Inv { s with caller := some (.lock task), called := s.called ++ [task] } pc := by
  have hlinked := h.linked
  have hcalled := h.called
  unfold Linked at hlinked
  rw [hcaller] at hlinked hcalled
  refine ⟨h.top, ?_, h.running, h.quick, hlinked, ?_, h.take, h.tasks, h.begun, ?_, h.reposted⟩
  · refine h.guards.step (i := .caller) ?_ ?_
    · simp only [critical, hcaller]
      exact .stay false s.mutex
    · intro j hj
      cases j with
      | caller => exact absurd rfl hj
      | thread j => rfl
  · intro htasks
    have hawake := h.awake htasks
    rw [hcaller] at hawake
    simpa using hawake
  · simp [hcalled, fromCallers]

theorem Inv.caller (h : Inv s pc) {p : PostPc Task} {q : Option (PostPc Task)} (hp : s.caller = some p) (hne : p ≠ .create)
    (hstep : PostMoves s .caller p t q) : Inv { t with caller := q } pc := by
  obtain ⟨-, hrunning, hcalled, hreposted, hstarted, hfinished⟩ := hstep.frame
  obtain ⟨tasks, hpending, htasklist, hposted⟩ := hstep.posts
  have hthreads := hstep.threads_of_ne hne
  refine ⟨?_, ?_, ?_, h.quick, h.caller_linked hp hne hstep, ?_, ?_, ?_, ?_, ?_, ?_⟩
  · rw [hthreads]
    exact h.top
  · refine h.guards.step (i := .caller) ?_ ?_
    · simp only [critical, hp, Option.any_some]
      exact hstep.mutex
    · intro j hj
      cases j with
      | caller => exact absurd rfl hj
      | thread j => simp only [critical, hthreads]
  · rw [hrunning]
    exact h.running
  · intro htasks
    rw [hrunning]
    exact h.caller_awake hp hne hstep htasks
  · intro htake hnil
    rw [htasklist] at hnil
    exact h.take htake (List.append_eq_nil_iff.mp hnil).1
  · rw [hposted, hstarted, htasklist, List.map_append, h.tasks]
    simp [Function.comp_def]
  · rw [hstarted, hfinished]
    exact h.begun
  · have hfrom := fromCallers_append hposted
    have hbefore := h.called
    rw [hp] at hbefore
    simp only [Option.toList_some, List.flatMap_singleton, hpending] at hbefore
    simp only [hcalled, hbefore, ← List.append_assoc]
    exact congrArg (· ++ _) hfrom.symm
  · rw [hreposted, h.reposted]
    have hfrom := fromTasks_append hposted
    simp only [Poster.isCaller, if_true, List.append_nil] at hfrom
    exact congrArg (· ++ _) hfrom.symm

theorem Inv.create (h : Inv s pc) (hp : s.caller = some .create) :
    Inv { s with threads := s.threads ++ [.lock], caller := some (.assign s.threads.length) } .lock := by
  have hlinked := h.linked
  have hcalled := h.called
  unfold Linked at hlinked
  rw [hp] at hlinked hcalled
  obtain ⟨rfl, hthread⟩ := hlinked
  refine ⟨h.top.push .lock, ?_, h.running, rfl, ?_, ?_, ?_, h.tasks, h.begun, hcalled, h.reposted⟩
  · intro j
    rw [h.guards j]
    cases j with
    | caller => simp [critical, hp]
    | thread j =>
      by_cases hj : j < s.threads.length
      · simp [critical, List.getElem?_append_left hj]
      · rw [Nat.not_lt] at hj
        have hnone : s.threads[j]? = none := List.getElem?_eq_none hj
        cases hdiff : j - s.threads.length <;> simp [critical, List.getElem?_append_right hj, hnone, hdiff]
  · exact ⟨by simp, hthread⟩
  · intro _
    exact .inl rfl
  · intro htake
    cases htake

/-- What the other threads and the caller see of a step of the last thread. -/
theorem Inv.worker_linked (h : Inv s pc) (hpc : pc ≠ .ended) (hcaller : t.caller = s.caller) (hthread : t.thread = s.thread)
    (hlen : t.threads.length = s.threads.length) (pc' : WorkerPc Task) : Linked t pc' := by
  have hlinked := h.linked
  unfold Linked at hlinked ⊢
  rw [hcaller, hthread, hlen]
  cases hp : s.caller with
  | none =>
    rw [hp] at hlinked
    exact hlinked
  | some p =>
    rw [hp] at hlinked
    cases p with
    | forget => exact absurd hlinked hpc
    | create => exact absurd hlinked.1 hpc
    | _ => exact hlinked

theorem Inv.worker_guards (h : Inv s pc) {i : Nat} (hi : s.threads.length = i + 1)
    (hmove : Mutex.Move (.thread i) pc.critical pc'.critical s.mutex t.mutex) (hcaller : t.caller = s.caller)
    (hthreads : t.threads = s.threads.set i pc') : Mutex.Guards t.mutex t.critical := by
  have hlt : i < s.threads.length := by omega
  refine h.guards.step (i := .thread i) ?_ ?_
  · simp only [critical, hthreads, h.top.last hi, List.getElem?_set_self hlt, Option.any_some]
    exact hmove
  · intro j hj
    cases j with
    | caller => simp only [critical, hcaller]
    | thread j =>
      have hne : i ≠ j := fun e => hj (by rw [e])
      simp only [critical, hthreads, List.getElem?_set_ne hne]

theorem Inv.worker (h : Inv s pc) {i : Nat} (hi : s.threads.length = i + 1) (hstep : ThreadMoves s i pc t pc') :
    Inv { t with threads := t.threads.set i pc' } pc' := by
  have hne : pc ≠ .ended := by
    intro hended
    subst hended
    cases hstep
  obtain ⟨hcaller, hcalled, hreposted⟩ := hstep.frame
  obtain ⟨hthreads, hthread, hrunning, hquick⟩ := hstep.threads h.running h.quick
  obtain ⟨tasks, hpending, hposted, htasks, hbegun⟩ := hstep.tasks
  refine ⟨?_, ?_, hrunning, hquick, ?_, ?_, hstep.take_tasks, ?_, hbegun h.begun, ?_, ?_⟩
  · rw [hthreads]
    exact h.top.set hi pc'
  · exact h.worker_guards hi hstep.mutex hcaller (congrArg (List.set · i pc') hthreads)
  · refine h.worker_linked hne ?_ ?_ ?_ pc'
    · exact hcaller
    · exact hthread
    · simp only [List.length_set, hthreads]
  · intro hnil
    obtain hawake | ⟨hpc, hsame, hrun⟩ := hstep.awake hnil
    · exact .inl hawake
    · -- past the check there is a caller that will start a thread
      rw [hsame] at hnil
      have hstarts := (h.awake hnil).resolve_left (by rw [hpc]; exact Bool.false_ne_true)
      rw [hcaller]
      obtain hsame | hfalse := hrun
      · rw [hsame]
        exact .inr hstarts
      · rw [hfalse]
        exact .inr (starts_false hstarts)
  · rw [hposted, htasks, ← h.tasks, List.map_append]
    simp [Function.comp_def]
  · rw [hcalled, hcaller, h.called]
    have hfrom := fromCallers_append hposted
    simp only [Poster.isCaller, Bool.false_eq_true, if_false, List.append_nil] at hfrom
    exact congrArg (· ++ _) hfrom.symm
  · have hfrom := fromTasks_append hposted
    simp only [hreposted, h.reposted, hpending, ← List.append_assoc]
    exact congrArg (· ++ _) hfrom.symm

theorem Inv.repost (h : Inv s pc) {i : Nat} {task current : Task} (hi : s.threads.length = i + 1)
    (hpc : pc = .run current none) :
    Inv { s with
      threads := s.threads.set i (.run current (some (.lock task)))
      reposted := s.reposted ++ [task] } (.run current (some (.lock task))) := by
  subst hpc
  refine ⟨h.top.set hi _, ?_, h.running, rfl, ?_, ?_, ?_, h.tasks, h.begun, h.called, ?_⟩
  · exact h.worker_guards hi (.stay false s.mutex) rfl rfl
  · refine h.worker_linked ?_ ?_ ?_ ?_ _
    · intro hended
      cases hended
    · rfl
    · rfl
    · simp only [List.length_set]
  · intro _
    exact .inl rfl
  · intro htake
    cases htake
  · rw [h.reposted]
    simp [fromTasks]

theorem Inv.step (h : Inv s pc) (hmoves : Moves s pc a t pc') : Inv t pc' := by
  cases hmoves with
  | call hcaller => exact h.call hcaller
  | caller hp hne hstep => exact h.caller hp hne hstep
  | create hp => exact h.create hp
  | worker hi hstep => exact h.worker hi hstep
  | repost hi hpc => exact h.repost hi hpc

theorem inv_new : Inv (new : AsyncWorker Task) .ended := by
  refine ⟨.inl ⟨rfl, rfl⟩, ?_, rfl, rfl, rfl, ?_, ?_, rfl, rfl, rfl, rfl⟩
  · intro j
    cases j <;> simp [new, critical]
  · intro hnil
    exact absurd rfl hnil
  · intro htake
    cases htake

theorem reachable_inv (h : machine.Reachable s) : ∃ pc, Inv s pc := by
  refine h.invariant (I := fun s : AsyncWorker Task => ∃ pc, Inv s pc) ?_ ?_
  · intro s hs
    subst hs
    exact ⟨.ended, inv_new⟩
  · intro s a t hI hstep
    obtain ⟨pc, hI⟩ := hI
    obtain ⟨pc', hmoves⟩ := hI.moves hstep
    exact ⟨pc', hI.step hmoves⟩

/-! ## The steps of a run -/

def calls (s : AsyncWorker Task) : Nat := s.called.length + s.reposted.length

/-- A step uses up weight, and a post puts twenty on. -/
theorem Inv.weight (h : Inv s pc) (hmoves : Moves s pc a t pc') :
    t.weight + 1 + 21 * s.calls ≤ s.weight + 21 * t.calls := by
  have hthreads := h.top.weight
  have hafter := (h.step hmoves).top.weight
  unfold AsyncWorker.weight calls
  rw [hthreads, hafter]
  cases hmoves with
  | call hcaller =>
    simp only [hcaller, Option.map_none, Option.map_some, Option.getD_none, Option.getD_some, PostPc.weight,
      List.length_append, List.length_singleton]
    omega
  | caller hp hne hstep =>
    have hweight := hstep.weight
    obtain ⟨-, -, hcalled, hreposted, -, -⟩ := hstep.frame
    rw [hstep.threads_of_ne hne, hthreads] at hweight
    simp only [hp, hcalled, hreposted, Option.map_some, Option.getD_some]
    omega
  | create hp =>
    have hlinked := h.linked
    unfold Linked at hlinked
    rw [hp] at hlinked
    simp only [hp, hlinked.1, Option.map_some, Option.getD_some, PostPc.weight, WorkerPc.weight]
    omega
  | worker hi hstep =>
    have hweight := hstep.weight (hstep.threads h.running h.quick).1
    obtain ⟨hcaller, hcalled, hreposted⟩ := hstep.frame
    simp only [hcaller, hcalled, hreposted]
    omega
  | repost hi hpc =>
    simp only [hpc, Option.map_none, Option.map_some, Option.getD_none, Option.getD_some, PostPc.weight, WorkerPc.weight,
      List.length_append, List.length_singleton]
    omega

theorem Inv.exec {as : List (Label Task)} (h : Inv s pc) (hexec : machine.exec s as = some t) :
    t.weight + as.length + 21 * s.calls ≤ s.weight + 21 * t.calls := by
  induction as generalizing s pc with
  | nil =>
    cases hexec
    simp
  | cons a as ih =>
    rw [Machine.exec, Option.bind_eq_some_iff] at hexec
    obtain ⟨u, hstep, hexec⟩ := hexec
    obtain ⟨pc', hmoves⟩ := h.moves hstep
    have hfirst := h.weight hmoves
    have hrest := ih (h.step hmoves) hexec
    rw [List.length_cons]
    omega

/-! ## A state in which nothing goes on -/

/-- The steps that are not new posts. -/
def Label.goesOn : Label Task → Prop
  | .caller | .worker _ => True
  | .call _ | .repost _ _ => False

def Quiet (s : AsyncWorker Task) : Prop := ∀ a : Label Task, a.goesOn → machine.step s a = none

theorem postStep_of_critical {p : PostPc Task} (hp : p.critical = true) (me : Poster) : s.postStep me p ≠ none := by
  cases p with
  | push | readRunning | unlock => simp [postStep]
  | _ => cases hp

theorem Inv.threadStep_of_critical (h : Inv s pc) (hpc : pc.critical = true) (i : Nat) : s.threadStep i pc ≠ none := by
  cases pc with
  | take =>
    have htasks := h.take rfl
    simp only [threadStep]
    split
    · simp
    · rename_i hnil
      exact absurd hnil htasks
  | run task post =>
    cases post with
    | none => cases hpc
    | some p =>
      simp only [threadStep, ne_eq, Option.map_eq_none_iff]
      exact postStep_of_critical hpc _
  | setRunning | test | unlockTask | clearRunning | unlockLast => simp [threadStep]
  | _ => cases hpc

theorem Quiet.caller (hq : s.Quiet) {p : PostPc Task} (hp : s.caller = some p) : s.postStep .caller p = none := by
  have hstep := hq .caller trivial
  simpa [machine, step, hp] using hstep

theorem Quiet.worker (hq : s.Quiet) {i : Nat} (hi : s.threads[i]? = some pc) : s.threadStep i pc = none := by
  have hstep := hq (.worker i) trivial
  simpa [machine, step, hi] using hstep

theorem Inv.quiet_mutex (h : Inv s pc) (hq : s.Quiet) : s.mutex = none := by
  apply h.guards.free
  intro j
  rw [← Bool.not_eq_true]
  intro hcritical
  cases j with
  | caller =>
    obtain ⟨p, hp, hcritical⟩ := (Option.any_eq_true _ _).mp hcritical
    exact postStep_of_critical hcritical _ (hq.caller hp)
  | thread j =>
    obtain ⟨p, hp, hcritical⟩ := (Option.any_eq_true _ _).mp hcritical
    have hne : p ≠ .ended := by
      intro hended
      subst hended
      cases hcritical
    obtain ⟨-, rfl⟩ := h.top.get hp hne
    exact h.threadStep_of_critical hcritical j (hq.worker hp)

theorem Inv.quiet_ended (h : Inv s pc) (hq : s.Quiet) : pc = .ended := by
  have hmutex := h.quiet_mutex hq
  obtain ⟨-, rfl⟩ | ⟨n, hthreads⟩ := h.top
  · rfl
  · have hlast := hq.worker (h.top.last (i := n) (by simp [hthreads]))
    have hcritical := fun hc => h.threadStep_of_critical hc n hlast
    cases pc with
    | ended => rfl
    | lock | relock => simp [threadStep, hmutex] at hlast
    | run task post =>
      cases post with
      | none => cases hlast
      | some p =>
        have hquick := h.quick
        cases p with
        | lock => simp [threadStep, postStep, hmutex] at hlast
        | push | readRunning | unlock | decide => cases hlast
        | _ => cases hquick
    | _ => exact absurd rfl hcritical

theorem Inv.quiet_caller (h : Inv s pc) (hq : s.Quiet) : s.caller = none := by
  cases hp : s.caller with
  | none => rfl
  | some p =>
    have hcaller := hq.caller hp
    cases p with
    | lock => simp [postStep, h.quiet_mutex hq] at hcaller
    | join =>
      -- the thread that is waited for has ended
      have hlinked := h.linked
      unfold Linked at hlinked
      rw [hp] at hlinked
      obtain ⟨i, hi⟩ := Option.ne_none_iff_exists'.mp hlinked.1
      have hlen := hlinked.2
      rw [hi] at hlen
      simp [postStep, hi, h.top.last hlen, h.quiet_ended hq] at hcaller
    | _ => cases hcaller

theorem Moves.calls_of_goesOn (hmoves : Moves s pc a t pc') (ha : a.goesOn) : t.calls = s.calls := by
  unfold calls
  cases hmoves with
  | caller hp hne hstep =>
    obtain ⟨-, -, hcalled, hreposted, -, -⟩ := hstep.frame
    rw [hcalled, hreposted]
  | worker hi hstep =>
    obtain ⟨-, hcalled, hreposted⟩ := hstep.frame
    rw [hcalled, hreposted]
  | create hp => rfl
  | call | repost => cases ha

theorem Inv.quiet_finished (h : Inv s pc) (hq : s.Quiet) :
    s.finished = s.posted.map Prod.snd ∧ s.fromCallers = s.called ∧ s.fromTasks = s.reposted := by
  obtain rfl := h.quiet_ended hq
  have hcaller := h.quiet_caller hq
  have htasklist : s.tasklist = [] := by
    by_contra hne
    have hawake := h.awake hne
    rw [hcaller] at hawake
    simp at hawake
  have htasks := h.tasks
  have hbegun := h.begun
  have hcalled := h.called
  have hreposted := h.reposted
  rw [hcaller] at hcalled
  simp only [WorkerPc.inHand, WorkerPc.current, htasklist, List.append_nil] at htasks hbegun
  refine ⟨?_, ?_, ?_⟩
  · rw [htasks, hbegun]
  · rw [hcalled]
    simp
  · rw [hreposted]
    simp

theorem Inv.reaches_quiet (h : Inv s pc) :
    ∃ as t, (∀ a ∈ as, Label.goesOn a) ∧ machine.exec s as = some t ∧ t.Quiet := by
  induction hn : s.weight using Nat.strongRecOn generalizing s pc with
  | _ n ih =>
    by_cases hq : s.Quiet
    · exact ⟨[], s, by simp, rfl, hq⟩
    · unfold Quiet at hq
      push Not at hq
      obtain ⟨a, ha, hstep⟩ := hq
      obtain ⟨u, hstep⟩ := Option.ne_none_iff_exists'.mp hstep
      obtain ⟨pc', hmoves⟩ := h.moves hstep
      have hweight := h.weight hmoves
      have hcalls := hmoves.calls_of_goesOn ha
      obtain ⟨as, t, has, hexec, hquiet⟩ := ih u.weight (by omega) (h.step hmoves) rfl
      refine ⟨a :: as, t, ?_, ?_, hquiet⟩
      · intro b hb
        cases hb with
        | head => exact ha
        | tail _ hb => exact has b hb
      · simp [Machine.exec, hstep, hexec]

/-! ## All runs -/

/-- The tasks are started in the order of posting and run one at a time, and a
task that waits will be looked at. -/
structure InOrder (s : AsyncWorker Task) : Prop where
  started : s.started <+: s.posted.map Prod.snd
  finished : s.started = s.finished ++ s.threads.flatMap WorkerPc.current
  single : (s.threads.flatMap WorkerPc.current).length ≤ 1
  called : s.fromCallers <+: s.called
  reposted : s.fromTasks <+: s.reposted
  awake : s.caller = none → s.tasklist ≠ [] → ∃ (i : Nat) (pc : WorkerPc Task), s.threads[i]? = some pc ∧ pc.awake = true

theorem Inv.inOrder (h : Inv s pc) : InOrder s := by
  refine ⟨?_, ?_, ?_, ?_, ?_, ?_⟩
  · rw [h.tasks]
    exact List.prefix_append s.started _
  · rw [h.top.current]
    exact h.begun
  · rw [h.top.current]
    cases pc <;> simp
  · rw [h.called]
    exact List.prefix_append s.fromCallers _
  · rw [h.reposted]
    exact List.prefix_append s.fromTasks _
  · intro hcaller htasks
    have hawake := h.awake htasks
    rw [hcaller] at hawake
    have hpc : pc.awake = true := by simpa using hawake
    obtain ⟨-, rfl⟩ | ⟨n, hthreads⟩ := h.top
    · cases hpc
    · exact ⟨n, pc, h.top.last (by simp [hthreads]), hpc⟩

/-- **The worker thread.** In every interleaving the posted tasks are started in
the order of posting, one at a time and each once, and while no caller posts a
waiting task has a thread that is still to look for it. There are at most
twenty-one steps for each post; a run can always go on until nothing but a new
post is left to do, and then everything posted has been run. -/
theorem worker_runs_tasks (as : List (Label Task)) (s : AsyncWorker Task) (h : machine.exec new as = some s) :
    s.InOrder ∧ as.length ≤ 21 * s.calls ∧
      (s.Quiet → s.finished = s.posted.map Prod.snd ∧ s.fromCallers = s.called ∧ s.fromTasks = s.reposted) ∧
      ∃ bs t, (∀ b ∈ bs, Label.goesOn b) ∧ machine.exec s bs = some t ∧ t.Quiet := by
  obtain ⟨pc, hI⟩ := reachable_inv (Machine.reachable_of_exec rfl as h)
  have hlength := inv_new.exec h
  have hnew : (new : AsyncWorker Task).weight = 0 := rfl
  have hcalls : (new : AsyncWorker Task).calls = 0 := rfl
  exact ⟨hI.inOrder, by omega, hI.quiet_finished, hI.reaches_quiet⟩

/-- A second post joins the thread before that has set `m_running`, and the first
task posts a third. -/
theorem worker_runs_three :
    InOrder (⟨some 1, false, [], none, none, [.ended, .ended], [1, 2], [3], [(.caller, 1), (.caller, 2), (.thread 0, 3)],
      [1, 2, 3], [1, 2, 3]⟩ : AsyncWorker Nat) :=
  (worker_runs_tasks (.call 1 :: List.replicate 8 .caller ++ .call 2 :: List.replicate 6 .caller ++
    List.replicate 5 (.worker 0) ++ .repost 0 3 :: List.replicate 20 (.worker 0) ++ List.replicate 4 .caller ++
    List.replicate 5 (.worker 1)) _ rfl).1

end AsyncWorker

end TTS
