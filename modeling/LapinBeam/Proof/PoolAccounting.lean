import LapinBeam.Actor.Pool
import LapinBeam.Lib.Machine
import Mathlib.Data.List.Infix

/-!
# What becomes of a pool's messages

The trace of a run, restricted to one message, is that message's whole history (`history`). It says
that the message was refused, or that it was put in a queue and then went through one session with
one worker (`Session`). Sessions of one worker follow each other, and a queue hands its messages
over in the order in which they came.
-/

namespace LapinBeam.Pool

open Bridge (MessageMeta)
open Actor (Exc)

variable {Msg Key : Type} {settings : Settings Msg Key}

structure Session (Msg Key : Type) where
  item : Item Msg Key
  seen : Option (Option MessageMeta)
  failure : Option Event
  concluded : Bool

namespace Session

variable (session : Session Msg Key)

def entries {nWorkers : Nat} (worker : Fin nWorkers) : List (Entry Msg Key nWorkers) :=
  .took worker session.item session.item.info ::
    ((session.seen.map (.called worker session.item)).toList ++
      ((session.failure.map (.failed worker session.item)).toList ++
        if session.concluded then [.ended worker session.item] else []))

/-- A function is called with the metadata of its message bound, and so is a class that has a handler for it. -/
def Sees (settings : Settings Msg Key) : Prop :=
  match settings.handler with
  | .function => session.seen = some session.item.info
  | .actorClass dispatches =>
      session.seen = if dispatches session.item.msg then some session.item.info else none
  | .executor => True

structure Proper (settings : Settings Msg Key) : Prop where
  sees : session.Sees settings
  reported : session.concluded = true → session.seen = none → session.failure.isSome = true

end Session

def Job.session (job : Job Msg Key) : Session Msg Key := ⟨job.item, job.seen, none, false⟩

namespace Worker

def session (worker : Worker Msg Key) : Option (Session Msg Key) :=
  match worker.stage with
  | .starting | .getting => none
  | .submitting job | .handling job | .replying job | .exited job => some job.session

def Sound (settings : Settings Msg Key) (worker : Worker Msg Key) : Prop :=
  match worker.stage with
  | .starting | .getting => True
  | .submitting job => settings.handler = .executor ∧ job.seen = none
  | .handling job | .replying job => job.session.Sees settings ∧ job.seen.isSome = true
  | .exited job => job.session.Sees settings

theorem Sound.sees {worker : Worker Msg Key} {session : Session Msg Key}
    (hsound : worker.Sound settings) (hsession : worker.session = some session) :
    session.Sees settings := by
  unfold Sound at hsound
  unfold Worker.session at hsession
  split at hsession <;> cases hsession <;> simp_all [Session.Sees]

end Worker

def Settings.Refusal (settings : Settings Msg Key) (item : Item Msg Key) (event : Event) : Prop :=
  event = settings.queueFull ∨
    ∃ hash exc, settings.hash = some hash ∧ event = settings.keyRaised exc ∧
      ∀ key, item.key = some key → hash key = .error exc

def Settings.Queues (settings : Settings Msg Key) (item : Item Msg Key)
    (queue : Fin settings.nWorkers) : Prop :=
  match settings.hash with
  | none => queue = settings.shared
  | some hash => ∃ key value, item.key = some key ∧ hash key = .ok value ∧
      queue = settings.shard value

inductive Stretch (pool : Pool settings) : Pool settings → Prop
  | refused {item event} (hnumber : item.number = pool.received.length)
      (hevent : settings.Refusal item event) : Stretch pool (pool.report item event)
  | aborted {item} (hnumber : item.number = pool.received.length)
      (hkey : settings.hash.isSome = true) :
      Stretch pool { pool with
        dispatching := false
        received := pool.received ++ [item]
        trace := pool.trace ++ [.aborted item] }
  | put {item queue} (hnumber : item.number = pool.received.length)
      (hqueue : settings.Queues item queue) :
      Stretch pool { pool with
        queues := Function.update pool.queues queue (pool.queues queue ++ [item])
        received := pool.received ++ [item]
        trace := pool.trace ++ [.put queue item] }
  | stay {index} (worker : Worker Msg Key) (hsound : worker.Sound settings)
      (hsession : worker.session = (pool.workers index).session) :
      Stretch pool (pool.setWorker index worker)
  | take (index : Fin settings.nWorkers) (worker : Worker Msg Key) (session : Session Msg Key)
      {rest} (hfree : (pool.workers index).session = none)
      (hqueue : pool.queues (settings.workerQueue index) = session.item :: rest)
      (hproper : session.Proper settings) (hsound : worker.Sound settings)
      (hsession : worker.session = if session.concluded then none else some session) :
      Stretch pool { pool with
        queues := Function.update pool.queues (settings.workerQueue index) rest
        workers := Function.update pool.workers index worker
        trace := pool.trace ++ session.entries index }
  | advance {index} (worker : Worker Msg Key) {before} (after : Session Msg Key)
      (entries : List (Entry Msg Key settings.nWorkers))
      (hbefore : (pool.workers index).session = some before) (hitem : after.item = before.item)
      (hentries : after.entries index = before.entries index ++ entries)
      (hproper : after.Proper settings) (hsound : worker.Sound settings)
      (hsession : worker.session = if after.concluded then none else some after) :
      Stretch pool { pool with
        workers := Function.update pool.workers index worker
        trace := pool.trace ++ entries }

theorem stretch_putNowait {pool : Pool settings} {queue : Fin settings.nWorkers} {item : Item Msg Key}
    (hnumber : item.number = pool.received.length) (hqueue : settings.Queues item queue) :
    Stretch pool (pool.putNowait queue item) := by
  unfold putNowait
  split
  · exact .refused hnumber (.inl rfl)
  · exact .put hnumber hqueue

theorem stretch_receive (pool : Pool settings) (msg : Msg) (info : Option MessageMeta)
    (keying : Keying Key) : Stretch pool (pool.receive msg info keying) := by
  unfold receive
  split
  next hhash => exact stretch_putNowait rfl (by simp [Settings.Queues, hhash])
  next hash hhash =>
    split
    · exact .aborted rfl (by simp [hhash])
    next exc => exact .refused rfl (.inr ⟨hash, exc, hhash, rfl, by simp⟩)
    next key =>
      split
      next exc herror =>
        refine .refused rfl (.inr ⟨hash, exc, hhash, rfl, ?_⟩)
        rintro _ ⟨⟩
        exact herror
      next value hvalue =>
        exact stretch_putNowait rfl (by simp [Settings.Queues, hhash, hvalue])

section Work

variable {pool next : Pool settings} {index : Fin settings.nWorkers} {job : Job Msg Key}
  {rest : List (Item Msg Key)}

theorem stretch_get (hfree : (pool.workers index).session = none)
    (hqueue : pool.queues (settings.workerQueue index) = job.item :: rest) (hseen : job.seen = none) :
    Stretch pool (({ pool with
      queues := Function.update pool.queues (settings.workerQueue index) rest }.record
        [.took index job.item job.item.info]).dispatch index job) := by
  have hcalled (hsees : Session.Sees ⟨job.item, some job.item.info, none, false⟩ settings) :=
    Stretch.take index ⟨job.item.info, .handling { job with seen := some job.item.info }⟩
      ⟨job.item, some job.item.info, none, false⟩ hfree hqueue ⟨hsees, by simp⟩ ⟨hsees, rfl⟩ rfl
  unfold dispatch
  split
  next hhandler => simpa [record, setWorker, Session.entries] using hcalled (by simp [Session.Sees, hhandler])
  next dispatches hhandler =>
    split
    next hdispatches =>
      simpa [record, setWorker, Session.entries] using
        hcalled (by simp [Session.Sees, hhandler, hdispatches])
    next hdispatches =>
      have hfailed := Stretch.take index ⟨job.token, .getting⟩ ⟨job.item, none,
        some (settings.handlerRaised ⟨"TypeError", settings.noHandler job.item.msg⟩), true⟩ hfree hqueue
        ⟨by simp [Session.Sees, hhandler, hdispatches], by simp⟩ trivial rfl
      simpa [fail, finish, record, setWorker, Session.entries] using hfailed
  next hhandler =>
    have hsubmitted := Stretch.take index ⟨job.item.info, .submitting job⟩ job.session hfree hqueue
      ⟨by simp [Session.Sees, hhandler], by simp [Job.session]⟩ ⟨hhandler, hseen⟩ rfl
    simpa [record, setWorker, Session.entries, Job.session, hseen] using hsubmitted

theorem stretch_finish (hjob : (pool.workers index).session = some job.session)
    (hsees : job.session.Sees settings) (hseen : job.seen.isSome = true) :
    Stretch pool (pool.finish index job) := by
  refine Stretch.advance ⟨job.token, .getting⟩ { job.session with concluded := true } _ hjob rfl ?_
    ⟨hsees, ?_⟩ trivial rfl
  · simp [Session.entries, Job.session]
  · intro _ hnone
    obtain hnone : job.seen = none := hnone
    simp [hnone] at hseen

theorem stretch_fail (hjob : (pool.workers index).session = some job.session)
    (hsees : job.session.Sees settings) (exc : Exc) : Stretch pool (pool.fail index job exc) := by
  have hadvance := Stretch.advance ⟨job.token, .getting⟩
    { job.session with failure := some (settings.handlerRaised exc), concluded := true }
    [.failed index job.item (settings.handlerRaised exc), .ended index job.item] hjob rfl
    (by simp [Session.entries, Job.session]) ⟨hsees, by simp⟩ trivial rfl
  simpa [fail, finish, record, setWorker] using hadvance

theorem stretch_work {input : Input} (hsound : (pool.workers index).Sound settings)
    (hwork : pool.work index input = some next) : Stretch pool next := by
  have hfail {job : Job Msg Key} (hjob : (pool.workers index).session = some job.session)
      (exc : Exc) := stretch_fail hjob (hsound.sees hjob) exc
  have hexit {job : Job Msg Key} (hjob : (pool.workers index).session = some job.session) :=
    Stretch.stay ⟨job.token, .exited job⟩ (hsound.sees hjob) hjob.symm
  revert hwork
  fun_cases work <;> rintro ⟨⟩
  case case1 info hstage => exact .stay _ trivial (by simp [Worker.session, hstage])
  case case3 item rest hqueue hstage taken =>
    exact stretch_get (by simp [Worker.session, hstage]) hqueue rfl
  case case5 current job hstage =>
    have hjob : (pool.workers index).session = some job.session := by simp [Worker.session, hstage]
    simp only [Worker.Sound, hstage] at hsound
    have hsees : Session.Sees ⟨job.item, some current, none, false⟩ settings := by
      simp [Session.Sees, hsound.1]
    refine Stretch.advance _ ⟨job.item, some current, none, false⟩ _ hjob rfl ?_ ⟨hsees, by simp⟩
      ⟨hsees, rfl⟩ rfl
    simp [Session.entries, Job.session, hsound.2]
  case case7 job hstage _ hreply hhandler =>
    simp only [Worker.Sound, hstage] at hsound
    exact .stay _ hsound (by simp [Worker.session, hstage])
  case case8 job hstage hreply =>
    simp only [Worker.Sound, hstage] at hsound
    exact stretch_finish (by simp [Worker.session, hstage]) hsound.1 hsound.2
  case case9 job hstage =>
    simp only [Worker.Sound, hstage] at hsound
    exact stretch_finish (by simp [Worker.session, hstage]) hsound.1 hsound.2
  case case11 exc job hstage | case12 exc job hstage | case13 exc job hstage =>
    exact hfail (by simp [Worker.session, hstage]) exc
  case case15 job hstage | case16 job hstage | case17 job hstage =>
    exact hexit (by simp [Worker.session, hstage])

end Work

theorem stretch_of_step {pool next : Pool settings} {action : Action Msg Key settings.nWorkers}
    (hsound : ∀ index, (pool.workers index).Sound settings)
    (hstep : pool.step action = some next) : Stretch pool next := by
  cases action with
  | receive msg info keying =>
      simp only [step, Option.ite_none_right_eq_some, Option.some.injEq] at hstep
      exact hstep.2 ▸ stretch_receive pool msg info keying
  | work index input => exact stretch_work (hsound index) hstep

namespace Entry

variable {nWorkers : Nat}

def item : Entry Msg Key nWorkers → Item Msg Key
  | .reported item _ | .aborted item | .put _ item | .took _ item _ | .called _ item _
  | .failed _ item _ | .ended _ item => item

def settles : Entry Msg Key nWorkers → Option (Item Msg Key)
  | .reported item _ | .aborted item | .put _ item => some item
  | _ => none

def putTo (queue : Fin nWorkers) : Entry Msg Key nWorkers → Option (Item Msg Key)
  | .put target item => if target = queue then some item else none
  | _ => none

def takenFrom (settings : Settings Msg Key) (queue : Fin settings.nWorkers) :
    Entry Msg Key settings.nWorkers → Option (Item Msg Key)
  | .took worker item _ => if settings.workerQueue worker = queue then some item else none
  | _ => none

def turnOf (worker : Fin nWorkers) : Entry Msg Key nWorkers → Bool
  | .took index _ _ | .ended index _ => index = worker
  | _ => false

theorem putTo_eq (queue : Fin nWorkers) (trace : List (Entry Msg Key nWorkers)) :
    trace.filterMap (putTo queue) =
      (trace.filter fun entry => (entry.putTo queue).isSome).filterMap settles := by
  rw [List.filterMap_filter]
  congr
  funext entry
  cases entry <;> simp [putTo, settles]

theorem of_settles {settings : Settings Msg Key} {entry : Entry Msg Key settings.nWorkers}
    {item : Item Msg Key} (hsettles : entry.settles = some item) :
    entry.item = item ∧ (∀ queue, entry.takenFrom settings queue = none) ∧
      ∀ index, entry.turnOf index = false := by
  cases entry <;> simp_all [settles, Entry.item, takenFrom, turnOf]

theorem item_of_takenFrom {settings : Settings Msg Key} {queue : Fin settings.nWorkers}
    {entry : Entry Msg Key settings.nWorkers} {item : Item Msg Key}
    (htaken : entry.takenFrom settings queue = some item) : entry.item = item := by
  cases entry <;> simp_all [takenFrom, Entry.item]

theorem putTo_eq_some {queue : Fin nWorkers} {entry : Entry Msg Key nWorkers} {item : Item Msg Key} :
    entry.putTo queue = some item ↔ entry = .put queue item := by
  cases entry <;> simp [putTo]

end Entry

def history {nWorkers : Nat} (trace : List (Entry Msg Key nWorkers)) (number : Nat) :
    List (Entry Msg Key nWorkers) :=
  trace.filter fun entry => entry.item.number = number

section History

variable {nWorkers : Nat} {trace entries : List (Entry Msg Key nWorkers)} {number : Nat}

theorem history_append : history (trace ++ entries) number = history trace number ++ history entries number :=
  List.filter_append ..

theorem history_append_self (hentries : ∀ entry ∈ entries, entry.item.number = number) :
    history (trace ++ entries) number = history trace number ++ entries := by
  rw [history_append]
  congr 1
  exact List.filter_eq_self.mpr fun entry hmem => decide_eq_true (hentries entry hmem)

theorem history_append_of_ne (hentries : ∀ entry ∈ entries, entry.item.number ≠ number) :
    history (trace ++ entries) number = history trace number := by
  rw [history_append]
  convert List.append_nil _
  exact List.filter_eq_nil_iff.mpr fun entry hmem => by simpa using hentries entry hmem

end History

namespace Session

variable {session : Session Msg Key} {nWorkers : Nat} {worker other : Fin nWorkers}

theorem of_mem_entries {entry : Entry Msg Key nWorkers} (hmem : entry ∈ session.entries worker) :
    entry.item = session.item ∧ entry.settles = none := by
  rcases session with ⟨item, _ | seen, _ | failure, _ | _⟩ <;>
    simp only [entries, List.mem_cons, Option.map_none, Option.map_some, Option.toList_none,
      Option.toList_some, List.nil_append, List.singleton_append, List.not_mem_nil, or_false,
      if_true, Bool.false_eq_true, if_false] at hmem <;>
    aesop

theorem filter_turnOf : (session.entries worker).filter (Entry.turnOf worker) =
    .took worker session.item session.item.info ::
      if session.concluded then [.ended worker session.item] else [] := by
  rcases session with ⟨item, _ | seen, _ | failure, _ | _⟩ <;> simp [entries, Entry.turnOf]

theorem filter_turnOf_of_ne (hother : worker ≠ other) :
    (session.entries worker).filter (Entry.turnOf other) = [] := by
  rcases session with ⟨item, _ | seen, _ | failure, _ | _⟩ <;> simp [entries, Entry.turnOf, hother]

theorem filterMap_takenFrom {worker queue : Fin settings.nWorkers} :
    (session.entries worker).filterMap (Entry.takenFrom settings queue) =
      if settings.workerQueue worker = queue then [session.item] else [] := by
  rcases session with ⟨item, _ | seen, _ | failure, _ | _⟩ <;>
    simp [entries, Entry.takenFrom, List.filterMap_cons] <;> split <;> simp_all

end Session

theorem Worker.over_of_session {worker : Worker Msg Key} {session : Session Msg Key}
    (hsession : worker.session = some session) : session.concluded = false := by
  unfold Worker.session at hsession
  split at hsession <;> cases hsession <;> rfl

section Advance

variable {index other : Fin settings.nWorkers} {before after : Session Msg Key}
  {entries : List (Entry Msg Key settings.nWorkers)}

theorem filterMap_takenFrom_advance {queue : Fin settings.nWorkers}
    (hentries : after.entries index = before.entries index ++ entries)
    (hitem : after.item = before.item) :
    entries.filterMap (Entry.takenFrom settings queue) = [] := by
  have htaken := congrArg (List.filterMap (Entry.takenFrom settings queue)) hentries
  rw [List.filterMap_append, Session.filterMap_takenFrom, Session.filterMap_takenFrom, hitem] at htaken
  exact List.self_eq_append_right.mp htaken

end Advance

inductive Fate (settings : Settings Msg Key) (item : Item Msg Key) :
    List (Entry Msg Key settings.nWorkers) → Prop
  | refused {event} (hevent : settings.Refusal item event) :
      Fate settings item [.reported item event]
  | aborted (hkey : settings.hash.isSome = true) : Fate settings item [.aborted item]
  | served {queue worker} {session : Session Msg Key} (hitem : session.item = item)
      (hproper : session.Proper settings) :
      Fate settings item (.put queue item :: session.entries worker)

def turns {nWorkers : Nat} (worker : Fin nWorkers) (items : List (Item Msg Key)) :
    List (Entry Msg Key nWorkers) :=
  items.flatMap fun item => [.took worker item item.info, .ended worker item]

structure Kept (pool : Pool settings) : Prop where
  sound : ∀ index, (pool.workers index).Sound settings
  numbers : pool.received.map Item.number = List.range pool.received.length
  settled : pool.trace.filterMap Entry.settles = pool.received
  known : ∀ entry ∈ pool.trace, entry.item ∈ pool.received
  filed : ∀ {queue item}, .put queue item ∈ pool.trace → settings.Queues item queue
  fifo : ∀ queue, pool.trace.filterMap (Entry.putTo queue) =
    pool.trace.filterMap (Entry.takenFrom settings queue) ++ pool.queues queue
  alternates : ∀ index, ∃ done, pool.trace.filter (Entry.turnOf index) =
    turns index done ++ ((pool.workers index).session.map fun session =>
      .took index session.item session.item.info).toList
  queued : ∀ {queue item}, item ∈ pool.queues queue →
    history pool.trace item.number = [.put queue item]
  held : ∀ {index session}, (pool.workers index).session = some session →
    ∃ queue, history pool.trace session.item.number =
      .put queue session.item :: session.entries index
  course : ∀ item ∈ pool.received, (∃ queue, item ∈ pool.queues queue) ∨
    Fate settings item (history pool.trace item.number)

namespace Kept

variable {pool : Pool settings} {item other : Item Msg Key}

theorem pairwise (hkept : Kept pool) : pool.received.Pairwise (·.number < ·.number) := by
  rw [← List.pairwise_map, hkept.numbers]
  exact List.pairwise_lt_range

theorem number_lt (hkept : Kept pool) (hitem : item ∈ pool.received) :
    item.number < pool.received.length := by
  rw [← List.mem_range, ← hkept.numbers]
  exact List.mem_map_of_mem hitem

theorem eq_of_number (hkept : Kept pool) (hitem : item ∈ pool.received)
    (hother : other ∈ pool.received) (hnumber : item.number = other.number) : item = other :=
  List.inj_on_of_nodup_map (hkept.numbers ▸ List.nodup_range) hitem hother hnumber

theorem mem_of_history {number : Nat} {entries : List (Entry Msg Key settings.nWorkers)}
    {entry : Entry Msg Key settings.nWorkers} (hhistory : history pool.trace number = entry :: entries) :
    entry ∈ pool.trace := by
  have hmem : entry ∈ history pool.trace number := hhistory ▸ List.mem_cons_self
  exact List.mem_of_mem_filter hmem

variable (hkept : Kept pool)

include hkept

theorem mem_of_queued {queue : Fin settings.nWorkers} (hitem : item ∈ pool.queues queue) :
    item ∈ pool.received :=
  hkept.known _ (mem_of_history (hkept.queued hitem))

theorem mem_of_held {index : Fin settings.nWorkers} {session : Session Msg Key}
    (hsession : (pool.workers index).session = some session) : session.item ∈ pool.received := by
  obtain ⟨queue, hhistory⟩ := hkept.held hsession
  exact hkept.known _ (mem_of_history hhistory)

theorem history_fresh : history pool.trace pool.received.length = [] := by
  refine List.filter_eq_nil_iff.mpr fun entry hmem => ?_
  simpa using (hkept.number_lt (hkept.known entry hmem)).ne

theorem pairwise_fifo (queue : Fin settings.nWorkers) :
    (pool.trace.filterMap (Entry.takenFrom settings queue) ++ pool.queues queue).Pairwise
      (·.number < ·.number) := by
  rw [← hkept.fifo]
  refine hkept.pairwise.sublist ?_
  rw [← hkept.settled, Entry.putTo_eq]
  exact List.filter_sublist.filterMap _

theorem ne_of_queued {queue source : Fin settings.nWorkers} {rest : List (Item Msg Key)}
    (hqueue : pool.queues source = item :: rest)
    (hother : other ∈ Function.update pool.queues source rest queue) :
    other.number ≠ item.number := by
  have hitem : item ∈ pool.queues source := hqueue ▸ List.mem_cons_self
  intro hnumber
  by_cases hsource : queue = source
  · subst hsource
    have hpairwise := (List.pairwise_append.mp (hkept.pairwise_fifo queue)).2.1
    rw [hqueue, List.pairwise_cons] at hpairwise
    rw [Function.update_self] at hother
    exact (hpairwise.1 other hother).ne' hnumber
  · rw [Function.update_of_ne hsource] at hother
    have hhistories : [Entry.put source item] = [.put queue other] := by
      rw [← hkept.queued hitem, ← hkept.queued hother, hnumber]
    cases hhistories
    exact hsource rfl

theorem ne_of_held {queue index : Fin settings.nWorkers} {session : Session Msg Key}
    (hitem : item ∈ pool.queues queue) (hsession : (pool.workers index).session = some session) :
    session.item.number ≠ item.number := by
  intro hnumber
  obtain ⟨source, hhistory⟩ := hkept.held hsession
  rw [hnumber, hkept.queued hitem] at hhistory
  cases hhistory

theorem ne_of_holders {index index' : Fin settings.nWorkers} {session session' : Session Msg Key}
    (hindex : index' ≠ index) (hsession : (pool.workers index).session = some session)
    (hsession' : (pool.workers index').session = some session') :
    session.item.number ≠ session'.item.number := by
  intro hnumber
  obtain ⟨queue, hhistory⟩ := hkept.held hsession
  obtain ⟨queue', hhistory'⟩ := hkept.held hsession'
  rw [hnumber, hhistory'] at hhistory
  simp only [Session.entries, List.cons.injEq, Entry.took.injEq] at hhistory
  exact hindex hhistory.2.1.1

end Kept

section Step

variable {pool next : Pool settings}

theorem Kept.receive (hkept : Kept pool) {item : Item Msg Key}
    {entry : Entry Msg Key settings.nWorkers} {queues : Fin settings.nWorkers → List (Item Msg Key)}
    {dispatching : Bool} (hnumber : item.number = pool.received.length)
    (hsettles : entry.settles = some item)
    (hfiled : ∀ queue, entry = .put queue item → settings.Queues item queue)
    (hqueues : ∀ queue, queues queue = pool.queues queue ++ (entry.putTo queue).toList)
    (hfate : (∃ queue, entry = .put queue item) ∨ Fate settings item [entry]) :
    Kept { pool with
      queues, dispatching, received := pool.received ++ [item], trace := pool.trace ++ [entry] } := by
  obtain ⟨hitem, htaken, hturn⟩ := Entry.of_settles hsettles
  have hnew : history (pool.trace ++ [entry]) item.number = [entry] := by
    rw [history_append_self (by simp [hitem]), hnumber, hkept.history_fresh, List.nil_append]
  have hold {other : Item Msg Key} (hother : other ∈ pool.received) :
      history (pool.trace ++ [entry]) other.number = history pool.trace other.number := by
    refine history_append_of_ne ?_
    simpa [hitem, hnumber] using (hkept.number_lt hother).ne'
  have hqueued {queue : Fin settings.nWorkers} (hput : entry = .put queue item) : item ∈ queues queue := by
    simp [hqueues, Entry.putTo_eq_some.mpr hput]
  refine ⟨hkept.sound, ?_, ?_, ?_, ?_, fun queue => ?_, fun index => ?_, ?_, ?_, ?_⟩
  · simp [hkept.numbers, List.range_succ, hnumber]
  · simp [List.filterMap_append, hkept.settled, hsettles]
  · intro past hmem
    rcases List.mem_append.mp hmem with hpast | hpast
    · exact List.mem_append_left _ (hkept.known past hpast)
    · obtain rfl := List.mem_singleton.mp hpast
      simp [hitem]
  · intro queue other hmem
    rcases List.mem_append.mp hmem with hpast | hpast
    · exact hkept.filed hpast
    · obtain rfl := List.mem_singleton.mp hpast
      cases hsettles
      exact hfiled queue rfl
  · simp only [List.filterMap_append, hkept.fifo, hqueues, List.append_assoc]
    cases hput : entry.putTo queue <;> simp [hput, htaken]
  · obtain ⟨done, hdone⟩ := hkept.alternates index
    exact ⟨done, by simpa [hturn] using hdone⟩
  · intro queue other hmem
    simp only [hqueues, List.mem_append, Option.mem_toList, Entry.putTo_eq_some] at hmem
    rcases hmem with hpast | hput
    · rw [hold (hkept.mem_of_queued hpast), hkept.queued hpast]
    · subst hput
      cases hsettles
      exact hnew
  · intro index session hsession
    rw [hold (hkept.mem_of_held hsession)]
    exact hkept.held hsession
  · intro other hmem
    rcases List.mem_append.mp hmem with hpast | hpast
    · rw [hold hpast]
      refine (hkept.course other hpast).imp_left ?_
      rintro ⟨queue, hqueue⟩
      exact ⟨queue, by simp [hqueues, hqueue]⟩
    · obtain rfl := List.mem_singleton.mp hpast
      rw [hnew]
      exact hfate.imp_left fun ⟨queue, hput⟩ => ⟨queue, hqueued hput⟩

structure Goes (pool : Pool settings) (index : Fin settings.nWorkers)
    (left : Fin settings.nWorkers → List (Item Msg Key)) (worker : Worker Msg Key)
    (prior news : List (Entry Msg Key settings.nWorkers)) (after : Session Msg Key) : Prop where
  sound : worker.Sound settings
  proper : after.Proper settings
  session : worker.session = if after.concluded then none else some after
  entries : after.entries index = prior ++ news
  history : ∃ queue, history pool.trace after.item.number = .put queue after.item :: prior
  queues : ∀ queue, pool.queues queue =
    news.filterMap (Entry.takenFrom settings queue) ++ left queue
  alternates : ((pool.workers index).session.map fun session =>
      Entry.took index session.item session.item.info).toList ++ news.filter (Entry.turnOf index) =
    (after.entries index).filter (Entry.turnOf index)
  queued : ∀ queue, ∀ item ∈ left queue, item.number ≠ after.item.number
  others : ∀ other session, other ≠ index → (pool.workers other).session = some session →
    session.item.number ≠ after.item.number

section Goes

variable {index : Fin settings.nWorkers} {worker : Worker Msg Key} {after : Session Msg Key}
  {prior news : List (Entry Msg Key settings.nWorkers)}
  {left : Fin settings.nWorkers → List (Item Msg Key)}

section

variable (hgoes : Goes pool index left worker prior news after)

include hgoes

theorem Goes.of_mem {entry : Entry Msg Key settings.nWorkers} (hmem : entry ∈ news) :
    entry.item = after.item ∧ entry.settles = none :=
  Session.of_mem_entries (hgoes.entries ▸ List.mem_append_right _ hmem)

theorem Goes.turns_other {other : Fin settings.nWorkers} (hother : other ≠ index) :
    news.filter (Entry.turnOf other) = [] := by
  have hturns : (after.entries index).filter (Entry.turnOf other) = [] :=
    Session.filter_turnOf_of_ne hother.symm
  rw [hgoes.entries, List.filter_append, List.append_eq_nil_iff] at hturns
  exact hturns.2

theorem Goes.turns_self {done : List (Item Msg Key)}
    (hdone : pool.trace.filter (Entry.turnOf index) = turns index done ++
      ((pool.workers index).session.map fun session =>
        .took index session.item session.item.info).toList) :
    ∃ done, (pool.trace ++ news).filter (Entry.turnOf index) = turns index done ++
      (worker.session.map fun session => .took index session.item session.item.info).toList := by
  rw [List.filter_append, hdone, List.append_assoc, hgoes.alternates, Session.filter_turnOf, hgoes.session]
  cases after.concluded with
  | false => exact ⟨done, by simp⟩
  | true => exact ⟨done ++ [after.item], by simp [turns]⟩

end

theorem Kept.work (hkept : Kept pool) (hgoes : Goes pool index left worker prior news after) :
    Kept { pool with
      queues := left
      workers := Function.update pool.workers index worker
      trace := pool.trace ++ news } := by
  obtain ⟨source, hhistory⟩ := hgoes.history
  have hreceived : after.item ∈ pool.received := hkept.known _ (Kept.mem_of_history hhistory)
  have hnew : history (pool.trace ++ news) after.item.number =
      .put source after.item :: after.entries index := by
    rw [history_append_self fun entry hmem => by rw [(hgoes.of_mem hmem).1], hhistory, hgoes.entries,
      List.cons_append]
  have hold {number : Nat} (hnumber : number ≠ after.item.number) :
      history (pool.trace ++ news) number = history pool.trace number :=
    history_append_of_ne fun entry hmem => by rw [(hgoes.of_mem hmem).1]; exact hnumber.symm
  have hunsettled : news.filterMap Entry.settles = [] :=
    List.filterMap_eq_nil_iff.mpr fun entry hmem => (hgoes.of_mem hmem).2
  refine ⟨fun other => ?_, hkept.numbers, ?_, ?_, ?_, fun queue => ?_, fun other => ?_, ?_, ?_, ?_⟩
  · by_cases hother : other = index
    · subst hother
      simpa using hgoes.sound
    · simpa [Function.update_of_ne hother] using hkept.sound other
  · simp [List.filterMap_append, hkept.settled, hunsettled]
  · intro entry hmem
    rcases List.mem_append.mp hmem with hpast | hnew
    · exact hkept.known entry hpast
    · exact (hgoes.of_mem hnew).1 ▸ hreceived
  · intro queue item hmem
    rcases List.mem_append.mp hmem with hpast | hnew
    · exact hkept.filed hpast
    · cases (hgoes.of_mem hnew).2
  · have hput : news.filterMap (Entry.putTo queue) = [] := by
      rw [Entry.putTo_eq]
      exact List.filterMap_eq_nil_iff.mpr fun entry hmem =>
        (hgoes.of_mem (List.mem_of_mem_filter hmem)).2
    simp only [List.filterMap_append, hput, List.append_nil, hkept.fifo, hgoes.queues,
      List.append_assoc]
  · obtain ⟨done, hdone⟩ := hkept.alternates other
    by_cases hother : other = index
    · subst hother
      simpa using hgoes.turns_self hdone
    · exact ⟨done, by simpa [Function.update_of_ne hother, hgoes.turns_other hother] using hdone⟩
  · intro queue item hmem
    rw [hold (hgoes.queued queue item hmem)]
    refine hkept.queued ?_
    rw [hgoes.queues]
    exact List.mem_append_right _ hmem
  · intro other session hsession
    by_cases hother : other = index
    · subst hother
      simp only [Function.update_self, hgoes.session, Option.ite_none_left_eq_some,
        Option.some.injEq] at hsession
      obtain ⟨-, rfl⟩ := hsession
      exact ⟨source, hnew⟩
    · simp only [Function.update_of_ne hother] at hsession
      rw [hold (hgoes.others other session hother hsession)]
      exact hkept.held hsession
  · intro item hmem
    by_cases hnumber : item.number = after.item.number
    · obtain rfl := hkept.eq_of_number hmem hreceived hnumber
      exact .inr (hnew ▸ .served rfl hgoes.proper)
    · rw [hold hnumber]
      refine (hkept.course item hmem).imp_left ?_
      rintro ⟨queue, hqueue⟩
      refine ⟨queue, ?_⟩
      rw [hgoes.queues, List.mem_append] at hqueue
      refine hqueue.resolve_left fun htaken => hnumber ?_
      obtain ⟨entry, hentry, htaken⟩ := List.mem_filterMap.mp htaken
      rw [← Entry.item_of_takenFrom htaken, (hgoes.of_mem hentry).1]

end Goes

theorem goes_take (hkept : Kept pool) {index : Fin settings.nWorkers} {worker : Worker Msg Key}
    {session : Session Msg Key} {rest : List (Item Msg Key)}
    (hfree : (pool.workers index).session = none)
    (hqueue : pool.queues (settings.workerQueue index) = session.item :: rest)
    (hproper : session.Proper settings) (hsound : worker.Sound settings)
    (hsession : worker.session = if session.concluded then none else some session) :
    Goes pool index (Function.update pool.queues (settings.workerQueue index) rest) worker []
      (session.entries index) session := by
  have hitem : session.item ∈ pool.queues (settings.workerQueue index) :=
    hqueue ▸ List.mem_cons_self
  refine ⟨hsound, hproper, hsession, rfl, ⟨_, hkept.queued hitem⟩, fun queue => ?_, by simp [hfree],
    fun queue other hother => hkept.ne_of_queued hqueue hother,
    fun other session' hother hsession' => hkept.ne_of_held hitem hsession'⟩
  rw [Session.filterMap_takenFrom]
  by_cases hsource : settings.workerQueue index = queue
  · subst hsource
    simp [hqueue]
  · simp [hsource, Function.update_of_ne (Ne.symm hsource)]

theorem goes_advance (hkept : Kept pool) {index : Fin settings.nWorkers} {worker : Worker Msg Key}
    {before after : Session Msg Key} {entries : List (Entry Msg Key settings.nWorkers)}
    (hbefore : (pool.workers index).session = some before) (hitem : after.item = before.item)
    (hentries : after.entries index = before.entries index ++ entries)
    (hproper : after.Proper settings) (hsound : worker.Sound settings)
    (hsession : worker.session = if after.concluded then none else some after) :
    Goes pool index pool.queues worker (before.entries index) entries after := by
  refine ⟨hsound, hproper, hsession, hentries, hitem ▸ hkept.held hbefore, fun queue => ?_, ?_,
    fun queue other hother => ?_, fun other session hother hsession => ?_⟩
  · rw [filterMap_takenFrom_advance hentries hitem, List.nil_append]
  · have hover := Worker.over_of_session hbefore
    simp [hbefore, hentries, List.filter_append, Session.filter_turnOf, hover]
  · rw [hitem]
    exact (hkept.ne_of_held hother hbefore).symm
  · rw [hitem]
    exact (hkept.ne_of_holders hother hbefore hsession).symm

theorem Kept.stretch (hkept : Kept pool) (hstretch : Stretch pool next) : Kept next := by
  cases hstretch with
  | refused hnumber hevent =>
      exact hkept.receive hnumber rfl (by simp) (by simp [Entry.putTo]) (.inr (.refused hevent))
  | aborted hnumber hkey =>
      exact hkept.receive hnumber rfl (by simp) (by simp [Entry.putTo]) (.inr (.aborted hkey))
  | @put item queue hnumber hqueue =>
      refine hkept.receive hnumber rfl ?_ ?_ (.inl ⟨queue, rfl⟩)
      · rintro _ ⟨⟩
        exact hqueue
      · intro other
        by_cases hother : other = queue
        · subst hother
          simp [Entry.putTo]
        · simp [Entry.putTo, Function.update_of_ne hother, Ne.symm hother]
  | @stay index worker hsound hsession =>
      have hsessions (other : Fin settings.nWorkers) :
          (Function.update pool.workers index worker other).session = (pool.workers other).session := by
        by_cases hother : other = index
        · subst hother
          simpa using hsession
        · simp [Function.update_of_ne hother]
      refine ⟨fun other => ?_, hkept.numbers, hkept.settled, hkept.known, hkept.filed, hkept.fifo,
        fun other => ?_, hkept.queued, fun {other session} hother => ?_, hkept.course⟩
      · by_cases hother : other = index
        · subst hother
          simpa [setWorker] using hsound
        · simpa [setWorker, Function.update_of_ne hother] using hkept.sound other
      · simpa only [setWorker, hsessions] using hkept.alternates other
      · exact hkept.held ((hsessions other).symm.trans hother)
  | take index worker session hfree hqueue hproper hsound hsession =>
      exact hkept.work (goes_take hkept hfree hqueue hproper hsound hsession)
  | advance worker after entries hbefore hitem hentries hproper hsound hsession =>
      exact hkept.work (goes_advance hkept hbefore hitem hentries hproper hsound hsession)

end Step

theorem kept_start : Kept ({} : Pool settings) where
  sound _ := trivial
  numbers := rfl
  settled := rfl
  known := by simp
  filed := by simp
  fifo _ := rfl
  alternates _ := ⟨[], rfl⟩
  queued := by simp
  held := by simp [Worker.session]
  course := by simp

theorem kept_of_reachable {pool : Pool settings} (hreach : Machine.Reachable step {} pool) : Kept pool :=
  hreach.invariant kept_start fun _ _ _ hkept _ hstep =>
    hkept.stretch (stretch_of_step hkept.sound hstep)

/-! ### Messages with one key -/

def Entry.turnFor {nWorkers : Nat} [DecidableEq Key] (key : Key) : Entry Msg Key nWorkers → Bool
  | .took _ item _ | .ended _ item => item.key = some key
  | _ => false

section Keyed

variable {pool : Pool settings} {worker : Fin settings.nWorkers} {items : List (Item Msg Key)}
  {entry : Entry Msg Key settings.nWorkers}

theorem took_of_mem_turns (hmem : entry ∈ turns worker items) : entry.item ∈ items := by
  obtain ⟨item, hitem, hentry⟩ := List.mem_flatMap.mp hmem
  simp only [List.mem_cons, List.not_mem_nil, or_false] at hentry
  rcases hentry with rfl | rfl <;> exact hitem

theorem Kept.turns_items (hkept : Kept pool) (hsharded : settings.hash.isSome = true)
    (worker : Fin settings.nWorkers) :
    ∃ done, pool.trace.filter (Entry.turnOf worker) = turns worker done ++
        ((pool.workers worker).session.map fun session =>
          .took worker session.item session.item.info).toList ∧
      pool.trace.filterMap (Entry.takenFrom settings worker) =
        done ++ ((pool.workers worker).session.map Session.item).toList := by
  obtain ⟨done, hdone⟩ := hkept.alternates worker
  refine ⟨done, hdone, ?_⟩
  have htaken : pool.trace.filterMap (Entry.takenFrom settings worker) =
      (pool.trace.filter (Entry.turnOf worker)).filterMap (Entry.takenFrom settings worker) := by
    rw [List.filterMap_filter]
    congr
    funext entry
    cases entry <;> simp [Entry.takenFrom, Entry.turnOf, Settings.workerQueue, hsharded]
  have hturns : (turns worker done).filterMap (Entry.takenFrom settings worker) = done := by
    rw [turns, List.filterMap_flatMap]
    simp [Entry.takenFrom, Settings.workerQueue, hsharded, List.filterMap_cons]
  rw [htaken, hdone, List.filterMap_append, hturns]
  cases (pool.workers worker).session <;>
    simp [Entry.takenFrom, Settings.workerQueue, hsharded]

theorem Kept.queues_of_turn (hkept : Kept pool) (hsharded : settings.hash.isSome = true)
    (hentry : entry ∈ pool.trace) (hturn : entry.turnOf worker = true) :
    settings.Queues entry.item worker := by
  obtain ⟨done, hdone, htaken⟩ := hkept.turns_items hsharded worker
  have hmem : entry.item ∈ pool.trace.filterMap (Entry.takenFrom settings worker) := by
    have hmem := hdone ▸ List.mem_filter.mpr ⟨hentry, hturn⟩
    rw [htaken]
    rcases List.mem_append.mp hmem with hpast | hnow
    · exact List.mem_append_left _ (took_of_mem_turns hpast)
    · refine List.mem_append_right _ ?_
      obtain ⟨session, hsession, rfl⟩ := Option.map_eq_some_iff.mp (Option.mem_toList.mp hnow)
      simp [hsession, Entry.item]
  have hput : entry.item ∈ pool.trace.filterMap (Entry.putTo worker) := by
    rw [hkept.fifo]
    exact List.mem_append_left _ hmem
  obtain ⟨put, hmem, hput⟩ := List.mem_filterMap.mp hput
  rw [Entry.putTo_eq_some] at hput
  exact hkept.filed (hput ▸ hmem)

variable [DecidableEq Key]

theorem filter_turns (key : Key) :
    (turns worker items).filter (fun entry => entry.item.key = some key) =
      turns worker (items.filter fun item => item.key = some key) := by
  induction items with
  | nil => rfl
  | cons item rest ih =>
      by_cases hkey : item.key = some key <;> simp_all [turns, Entry.item]

theorem Entry.of_turnFor {key : Key} (hturn : entry.turnFor key = true) :
    entry.item.key = some key ∧ ∃ worker, entry.turnOf worker = true := by
  cases entry <;> simp_all [turnFor, Entry.item, turnOf]

theorem Entry.turnFor_of_turnOf {key : Key} (hkey : entry.item.key = some key)
    (hturn : entry.turnOf worker = true) : entry.turnFor key = true := by
  cases entry <;> simp_all [turnFor, Entry.item, turnOf]

theorem Kept.worker_of_key (hkept : Kept pool) {hash : Key → Except Exc Int}
    (hhash : settings.hash = some hash) (key : Key) :
    ∃ worker, ∀ entry ∈ pool.trace, entry.turnFor key = true → entry.turnOf worker = true := by
  have hqueue : ∀ entry ∈ pool.trace, entry.turnFor key = true → ∃ value, hash key = .ok value ∧
      entry.turnOf (settings.shard value) = true := by
    intro entry hentry hturnFor
    obtain ⟨hkey, worker, hturn⟩ := Entry.of_turnFor hturnFor
    have hqueues := hkept.queues_of_turn (by simp [hhash]) hentry hturn
    simp only [Settings.Queues, hhash, hkey] at hqueues
    obtain ⟨_, value, ⟨⟩, hvalue, rfl⟩ := hqueues
    exact ⟨value, hvalue, hturn⟩
  cases hvalue : hash key with
  | error exc =>
      refine ⟨settings.shared, fun entry hentry hturnFor => ?_⟩
      obtain ⟨value, hok, -⟩ := hqueue entry hentry hturnFor
      cases hvalue.symm.trans hok
  | ok value =>
      refine ⟨settings.shard value, fun entry hentry hturnFor => ?_⟩
      obtain ⟨value', hok, hturn⟩ := hqueue entry hentry hturnFor
      obtain rfl : value = value' := Except.ok.inj (hvalue.symm.trans hok)
      exact hturn

theorem Kept.turns_key (hkept : Kept pool) {hash : Key → Except Exc Int}
    (hhash : settings.hash = some hash) (key : Key) :
    ∃ worker items, items.Pairwise (·.number < ·.number) ∧ (∀ item ∈ items, item.key = some key) ∧
      pool.trace.filter (Entry.turnFor key) <+: turns worker items := by
  obtain ⟨worker, hworker⟩ := hkept.worker_of_key hhash key
  obtain ⟨done, hdone, htaken⟩ := hkept.turns_items (by simp [hhash]) worker
  have hfilter : pool.trace.filter (Entry.turnFor key) =
      (pool.trace.filter (Entry.turnOf worker)).filter fun entry => entry.item.key = some key := by
    rw [List.filter_filter]
    refine List.filter_congr fun entry hentry => Bool.eq_iff_iff.mpr ?_
    simp only [Bool.and_eq_true, decide_eq_true_eq]
    exact ⟨fun hturn => ⟨(Entry.of_turnFor hturn).1, hworker entry hentry hturn⟩,
      fun ⟨hkey, hturn⟩ => Entry.turnFor_of_turnOf hkey hturn⟩
  have hpairwise := (List.pairwise_append.mp (hkept.pairwise_fifo worker)).1
  rw [htaken] at hpairwise
  refine ⟨worker, _, hpairwise.filter (fun item => item.key = some key),
    fun item hmem => of_decide_eq_true (List.mem_filter.mp hmem).2, ?_⟩
  rw [hfilter, hdone, List.filter_append, filter_turns, List.filter_append, turns, turns,
    List.flatMap_append, List.prefix_append_right_inj]
  cases (pool.workers worker).session with
  | none => simp
  | some session => by_cases hkey : session.item.key = some key <;> simp [Entry.item, hkey]

end Keyed

/-- Once the queues are drained, every message has been refused and reported, or has gone through one session with one worker; those with one key have the same worker, in the order in which they came. -/
theorem messages_accounted [DecidableEq Key] {pool : Pool settings}
    (hreach : Machine.Reachable step {} pool) (hdrained : ∀ queue, pool.queues queue = []) :
    (∀ item ∈ pool.received, Fate settings item (history pool.trace item.number)) ∧
      (settings.hash.isSome = true → ∀ key, ∃ worker items, items.Pairwise (·.number < ·.number) ∧
        (∀ item ∈ items, item.key = some key) ∧
        pool.trace.filter (Entry.turnFor key) <+: turns worker items) := by
  have hkept := kept_of_reachable hreach
  constructor
  · intro item hmem
    refine (hkept.course item hmem).resolve_left ?_
    simp [hdrained]
  · intro hsharded key
    obtain ⟨hash, hhash⟩ := Option.isSome_iff_exists.mp hsharded
    exact hkept.turns_key hhash key

def sharded : Settings Nat Nat where
  name := "p"
  reprName := "'p'"
  noHandler _ := ""
  nWorkers := 2
  nWorkers_pos := Nat.two_pos
  hash := some fun key => .ok key

def served : List (Action Nat Nat 2) :=
  [.receive 4 none (.value 4), .work 0 (.start none), .work 0 .get, .receive 5 none (.value 5),
    .receive 4 none (.value 4), .work 1 (.start none), .work 1 .get, .work 0 .returned, .work 0 .get]

theorem messages_accounted_sharded :
    ∃ pool : Pool sharded, Machine.Reachable step {} pool ∧ (∀ queue, pool.queues queue = []) ∧
      pool.received.length = 3 ∧
      (∀ item ∈ pool.received, Fate sharded item (history pool.trace item.number)) ∧
      (sharded.hash.isSome = true → ∀ key, ∃ worker items, items.Pairwise (·.number < ·.number) ∧
        (∀ item ∈ items, item.key = some key) ∧
        pool.trace.filter (Entry.turnFor key) <+: turns worker items) := by
  have hrun : (Machine.runWhere step (fun _ _ => True) ({} : Pool sharded) served).map
      (fun pool => (decide (∀ queue, pool.queues queue = []), pool.received.length)) =
        some (true, 3) := by
    decide +kernel
  obtain ⟨pool, hreach, hobserved⟩ := Machine.exists_reachableWhere hrun
  obtain ⟨hdrained, hlength⟩ := Prod.mk.inj hobserved
  have hdrained := of_decide_eq_true hdrained
  exact ⟨pool, hreach, hdrained, hlength, messages_accounted hreach hdrained⟩

def threaded : Settings Nat Nat where
  name := "p"
  reprName := "'p'"
  noHandler _ := ""
  nWorkers := 1
  nWorkers_pos := Nat.one_pos
  handler := .executor

def sender : MessageMeta := ⟨"m@h:1", none, none, none⟩

def sent : Item Nat Nat := ⟨0, 4, some sender, none⟩

/-- What a thread leaves of a message: it is handled in a context of its own, in which there is no current message. -/
def unbound : List (Entry Nat Nat threaded.nWorkers) :=
  [.put threaded.shared sent, .took threaded.shared sent (some sender),
    .called threaded.shared sent none, .ended threaded.shared sent]

theorem executor_sees_no_message :
    ∃ pool : Pool threaded, Machine.Reachable step {} pool ∧ (∀ queue, pool.queues queue = []) ∧
      pool.received = [sent] ∧ history pool.trace sent.number = unbound := by
  have hrun : (Machine.runWhere step (fun _ _ => True) ({} : Pool threaded)
      [.receive 4 (some sender) .aborted, .work threaded.shared (.start none),
        .work threaded.shared .get, .work threaded.shared (.call none),
        .work threaded.shared .returned]).map
      (fun pool => (decide (∀ queue, pool.queues queue = []), pool.received,
        history pool.trace sent.number)) = some (true, [sent], unbound) := by
    decide +kernel
  obtain ⟨pool, hreach, hobserved⟩ := Machine.exists_reachableWhere hrun
  obtain ⟨hdrained, hreceived, hhistory⟩ := Prod.mk.inj hobserved |>.imp_right Prod.mk.inj
  exact ⟨pool, hreach, of_decide_eq_true hdrained, hreceived, hhistory⟩

end LapinBeam.Pool
