import LapinBeam.Actor.Ask
import LapinBeam.Runtime.NodeId
import Mathlib.Data.List.Infix

/-!
# Calls and their replies

Every hidden mailbox has a name of its own, the name is registered exactly while the call is under
way, and a frame goes to the call whose message it answers (`Directory`). What a call has got and
what is still on its way to it are, in this order, replies to its own message; a stream misses none
of them as long as its frames find room in their channel and can be decoded (`Call.Sound`).
-/

namespace LapinBeam.Ask

open Bridge (MessageMeta)
open Actor (Exc)

variable {Msg Value : Type}

theorem askName_injective : Function.Injective askName := by
  intro left right heq
  have hdigits : Nat.toDigits 10 left = Nat.toDigits 10 right := by
    simpa [askName, ← String.toList_inj] using heq
  have hvalue := congrArg (Nat.ofDigitChars 10 · 0) hdigits
  simpa only [Nat.ofDigitChars_ten_toDigits] using hvalue

/-! ### Who replies are for -/

structure Ident where
  node : String
  number : Option Nat
  home : Option String
  live : Bool

def Ident.name (known : Ident) : Option String := known.number.map askName

def Call.ident (call : Call Msg Value) : Ident := ⟨call.node, call.number, call.home, call.live⟩

def Traffic.ident (traffic : Traffic Msg Value) (id : CallId) : Option Ident :=
  (traffic.calls[id]?).map Call.ident

structure Asked (ident : CallId → Option Ident) (id : CallId) (node name home : String) : Prop where
  known : ∃ known, ident id = some known ∧ known.node = node ∧ known.name = some name ∧
    known.home = some home

structure Directory (ident : CallId → Option Ident) (nextAsk : Nat)
    (names : String → String → Option Owner) (wire : String → String → List (Frame Value)) :
    Prop where
  lt : ∀ {id known number}, ident id = some known → known.number = some number → number < nextAsk
  unique : ∀ {id other known same number}, ident id = some known → known.number = some number →
    ident other = some same → same.number = some number → id = other
  names : ∀ {node name id}, names node name = some (.call id) ↔
    ∃ known, ident id = some known ∧ known.live = true ∧ known.node = node ∧
      known.name = some name
  frames : ∀ {source target frame}, frame ∈ wire source target → source ≠ target ∧
    ∃ id, frame.call = some id ∧ Asked ident id target frame.dstActor source

def Extends (ident later : CallId → Option Ident) : Prop :=
  ∀ id known, ident id = some known → ∃ after, later id = some after ∧
    after.node = known.node ∧ (known.number.isSome = true → after.number = known.number) ∧
    (known.home.isSome = true → after.home = known.home)

section Extends

variable {ident later : CallId → Option Ident} {id other : CallId} {known after : Ident}

theorem of_update (hknown : Function.update ident id (some after) other = some known) :
    (other = id ∧ known = after) ∨ (other ≠ id ∧ ident other = some known) := by
  by_cases hother : other = id
  · subst hother
    rw [Function.update_self] at hknown
    exact .inl ⟨rfl, (Option.some.inj hknown).symm⟩
  · rw [Function.update_of_ne hother] at hknown
    exact .inr ⟨hother, hknown⟩

theorem Extends.update (hknown : ident id = some known) (hnode : after.node = known.node)
    (hnumber : known.number.isSome = true → after.number = known.number)
    (hhome : known.home.isSome = true → after.home = known.home) :
    Extends ident (Function.update ident id (some after)) := by
  intro other before hbefore
  by_cases hother : other = id
  · subst hother
    obtain rfl := Option.some.inj (hknown.symm.trans hbefore)
    exact ⟨after, by simp, hnode, hnumber, hhome⟩
  · exact ⟨before, by simp [hother, hbefore], rfl, fun _ => rfl, fun _ => rfl⟩

theorem Asked.extends {node name home : String} (hasked : Asked ident id node name home)
    (hextends : Extends ident later) : Asked later id node name home := by
  obtain ⟨known, hknown, hnode, hname, hhome⟩ := hasked
  obtain ⟨after, hafter, hsame, hnumber, hhomes⟩ := hextends id known hknown
  have hsome : known.number.isSome = true := by
    simpa [Ident.name] using congrArg Option.isSome hname
  refine ⟨after, hafter, hsame.trans hnode, ?_, (hhomes (by simp [hhome])).trans hhome⟩
  rw [Ident.name, hnumber hsome]
  exact hname

end Extends

namespace Directory

variable {ident later : CallId → Option Ident} {nextAsk : Nat}
  {names names' : String → String → Option Owner} {wire : String → String → List (Frame Value)}
  {id other : CallId} {known same after : Ident}

variable (hdirectory : Directory ident nextAsk names wire)

include hdirectory

theorem eq_of_name {name : String} (hknown : ident id = some known) (hname : known.name = some name)
    (hsame : ident other = some same) (hother : same.name = some name) : id = other := by
  obtain ⟨number, hnumber, rfl⟩ := Option.map_eq_some_iff.mp hname
  obtain ⟨_, heq, hnames⟩ := Option.map_eq_some_iff.mp hother
  obtain rfl := askName_injective hnames
  exact hdirectory.unique hknown hnumber hsame heq

theorem update {nextAsk' : Nat} (hknown : ident id = some known)
    (hextends : Extends ident (Function.update ident id (some after))) (hle : nextAsk ≤ nextAsk')
    (hnumber : after.number = known.number ∨ after.number = some nextAsk ∧ nextAsk < nextAsk')
    (hothers : ∀ {node name other}, other ≠ id →
      (names' node name = some (.call other) ↔ names node name = some (.call other)))
    (hown : ∀ {node name}, names' node name = some (.call id) ↔
      after.live = true ∧ after.node = node ∧ after.name = some name) :
    Directory (Function.update ident id (some after)) nextAsk' names' wire := by
  have hfresh {number : Nat} (hafter : after.number = some number) :
      known.number = some number ∨ number = nextAsk ∧ nextAsk < nextAsk' := by
    rcases hnumber with heq | ⟨heq, hlt⟩
    · exact .inl (heq.symm.trans hafter)
    · exact .inr ⟨Option.some.inj (hafter.symm.trans heq), hlt⟩
  -- The changed call and another one never share a number.
  have hapart {other : CallId} {same : Ident} {number : Nat} (hafter : after.number = some number)
      (hne : other ≠ id) (hsame : ident other = some same) : same.number ≠ some number := by
    intro heq
    rcases hfresh hafter with hbefore | ⟨rfl, _⟩
    · exact hne (hdirectory.unique hsame heq hknown hbefore)
    · exact absurd (hdirectory.lt hsame heq) (lt_irrefl _)
  refine ⟨?_, ?_, ?_, ?_⟩
  · intro other same number hsame hother
    rcases of_update hsame with ⟨rfl, rfl⟩ | ⟨_, hbefore⟩
    · rcases hfresh hother with hbefore | ⟨rfl, hlt⟩
      · exact (hdirectory.lt hknown hbefore).trans_le hle
      · exact hlt
    · exact (hdirectory.lt hbefore hother).trans_le hle
  · intro first second left right number hleft hfirst hright hsecond
    rcases of_update hleft with ⟨rfl, rfl⟩ | ⟨hone, hbefore⟩ <;>
      rcases of_update hright with ⟨rfl, rfl⟩ | ⟨htwo, hother⟩
    · rfl
    · exact absurd hsecond (hapart hfirst htwo hother)
    · exact absurd hfirst (hapart hsecond hone hbefore)
    · exact hdirectory.unique hbefore hfirst hother hsecond
  · intro node name other
    by_cases hother : other = id
    · subst hother
      simpa using hown
    · simpa [hother] using (hothers hother).trans hdirectory.names
  · intro source target frame hframe
    obtain ⟨hremote, caller, hcall, hasked⟩ := hdirectory.frames hframe
    exact ⟨hremote, caller, hcall, hasked.extends hextends⟩

theorem register (hknown : ident id = some known) (hnumber : known.number = none)
    (hlive : known.live = false) (hfree : names known.node (askName nextAsk) = none)
    (hnames : ∀ node name, names' node name =
      if node = known.node ∧ name = askName nextAsk then some (.call id) else names node name) :
    Directory (Function.update ident id (some { known with number := some nextAsk, live := true }))
      (nextAsk + 1) names' wire := by
  have hnone {node name : String} : names node name ≠ some (.call id) := by
    intro hsome
    obtain ⟨same, hsame, htrue, _⟩ := hdirectory.names.mp hsome
    obtain rfl := Option.some.inj (hknown.symm.trans hsame)
    simp [hlive] at htrue
  refine hdirectory.update hknown (Extends.update hknown rfl (by simp [hnumber]) fun _ => rfl)
    (Nat.le_succ _) (.inr ⟨rfl, Nat.lt_succ_self _⟩) ?_ ?_
  · intro node name other hother
    rw [hnames]
    split
    next hslot => simp [hslot.1, hslot.2, hfree, hother.symm]
    next => rfl
  · intro node name
    rw [hnames]
    split
    next hslot => simp [hslot.1, hslot.2, Ident.name]
    next hslot =>
      simp only [hnone, Ident.name, Option.map_some, Option.some.injEq, true_and, false_iff]
      exact fun hsame => hslot ⟨hsame.1.symm, hsame.2.symm⟩

theorem retain {nextAsk' : Nat} {home : Option String} (hknown : ident id = some known)
    (hle : nextAsk ≤ nextAsk') (hhome : known.home.isSome = true → home = known.home) :
    Directory (Function.update ident id (some { known with home })) nextAsk' names wire := by
  refine hdirectory.update hknown (Extends.update hknown rfl (fun _ => rfl) hhome) hle (.inl rfl)
    (fun _ => Iff.rfl) ?_
  intro node name
  rw [hdirectory.names]
  constructor
  · rintro ⟨same, hsame, hown⟩
    obtain rfl := Option.some.inj (hknown.symm.trans hsame)
    exact hown
  · intro hown
    exact ⟨known, hknown, hown⟩

theorem grow (hsame : ∀ id known, ident id = some known → later id = some known)
    (hnew : ∀ id known, later id = some known →
      ident id = some known ∨ known.number = none ∧ known.live = false) :
    Directory later nextAsk names wire := by
  have hold {id : CallId} {known : Ident} {number : Nat} (hknown : later id = some known)
      (hnumber : known.number = some number) : ident id = some known := by
    rcases hnew id known hknown with hbefore | ⟨hnone, _⟩
    · exact hbefore
    · simp [hnone] at hnumber
  refine ⟨?_, ?_, ?_, ?_⟩
  · intro id known number hknown hnumber
    exact hdirectory.lt (hold hknown hnumber) hnumber
  · intro id other known same number hknown hnumber hother hequal
    exact hdirectory.unique (hold hknown hnumber) hnumber (hold hother hequal) hequal
  · intro node name id
    rw [hdirectory.names]
    constructor
    · rintro ⟨known, hknown, hown⟩
      exact ⟨known, hsame id known hknown, hown⟩
    · rintro ⟨known, hknown, hlive, hown⟩
      rcases hnew id known hknown with hbefore | ⟨_, hdead⟩
      · exact ⟨known, hbefore, hlive, hown⟩
      · simp [hdead] at hlive
  · intro source target frame hframe
    obtain ⟨hremote, caller, hcall, known, hknown, hasked⟩ := hdirectory.frames hframe
    exact ⟨hremote, caller, hcall, known, hsame caller known hknown, hasked⟩

theorem finish {name : String} {home : Option String} (hknown : ident id = some known)
    (hlive : known.live = true) (hname : known.name = some name)
    (hhome : known.home.isSome = true → home = known.home)
    (hnames : ∀ node other, names' node other =
      if node = known.node ∧ other = name then none else names node other) :
    Directory (Function.update ident id (some { known with home, live := false })) nextAsk names'
      wire := by
  have hslot : names known.node name = some (.call id) :=
    hdirectory.names.mpr ⟨known, hknown, hlive, rfl, hname⟩
  refine hdirectory.update hknown (Extends.update hknown rfl (fun _ => rfl) hhome) le_rfl
    (.inl rfl) ?_ ?_
  · intro node text other hother
    rw [hnames]
    split
    next heq => simp [heq.1, heq.2, hslot, hother.symm]
    next => rfl
  · intro node text
    rw [hnames]
    split
    next => simp
    next hne =>
      simp only [Bool.false_eq_true, false_and, iff_false]
      intro hsome
      obtain ⟨same, hsame, _, hnode, htext⟩ := hdirectory.names.mp hsome
      obtain rfl := Option.some.inj (hknown.symm.trans hsame)
      exact hne ⟨hnode.symm, Option.some.inj (htext.symm.trans hname)⟩

end Directory

/-! ### What a call gets -/

namespace Reply

def isItem : Reply Value → Bool
  | .item _ => true
  | _ => false

end Reply

def throughFinal : List (Reply Value) → List (Reply Value)
  | [] => []
  | .final value :: _ => [.final value]
  | .item value :: rest => .item value :: throughFinal rest
  | .plain value :: rest => .plain value :: throughFinal rest

def Items (replies : List (Reply Value)) : Prop := ∀ reply ∈ replies, reply.isItem = true

def Closed (replies : List (Reply Value)) : Prop :=
  ∃ items value, replies = items ++ [.final value] ∧ Items items

theorem throughFinal_items_append {items : List (Reply Value)} (hitems : Items items)
    (rest : List (Reply Value)) : throughFinal (items ++ rest) = items ++ throughFinal rest := by
  induction items with
  | nil => rfl
  | cons reply items ih =>
      obtain ⟨hreply, hrest⟩ := List.forall_mem_cons.mp hitems
      cases reply with
      | item value => rw [List.cons_append, throughFinal, ih hrest, List.cons_append]
      | plain value => cases hreply
      | final value => cases hreply

theorem Items.front {replies made : List (Reply Value)} (hitems : Items replies)
    (hfront : replies <+: made) : replies <+: throughFinal made := by
  obtain ⟨rest, rfl⟩ := hfront
  rw [throughFinal_items_append hitems]
  exact List.prefix_append ..

theorem Closed.eq {replies made : List (Reply Value)} (hclosed : Closed replies)
    (hfront : replies <+: made) : replies = throughFinal made := by
  obtain ⟨rest, rfl⟩ := hfront
  obtain ⟨items, value, rfl, hitems⟩ := hclosed
  rw [List.append_assoc, throughFinal_items_append hitems]
  rfl

theorem Items.ne_plain {replies : List (Reply Value)} (hitems : Items replies) :
    ∀ reply ∈ replies, ∀ value, reply ≠ .plain value := by
  rintro _ hreply value rfl
  exact absurd (hitems _ hreply) (by simp [Reply.isItem])

theorem Closed.ne_plain {replies : List (Reply Value)} (hclosed : Closed replies) :
    ∀ reply ∈ replies, ∀ value, reply ≠ .plain value := by
  obtain ⟨items, last, rfl, hitems⟩ := hclosed
  intro reply hreply value
  rcases List.mem_append.mp hreply with hitem | hlast
  · exact hitems.ne_plain reply hitem value
  · simp [List.mem_singleton.mp hlast]

namespace Call

variable (call : Call Msg Value)

def held : List (Reply Value) := call.queue ++ (call.scheduled ++ call.channel)

def Shape : Prop :=
  match call.stage with
  | .created | .sending | .waiting | .yielded false => Items call.got
  | .yielded true | .ended none => Closed call.got
  | .ended (some _) => Items call.got ∨ Closed call.got

structure Sound (roomy : Prop) (air : List (Reply Value)) : Prop where
  registered : call.live = true → call.number.isSome = true
  created : call.stage = .created → call.number = none
  unsent : call.stage = .created ∨ call.stage = .sending → call.home = none
  silent : call.home = none → call.made = []
  near : call.home = some call.node → call.scheduled = [] ∧ call.channel = [] ∧ air = []
  sublist : (call.got ++ (call.held ++ air)).Sublist call.made
  shape : call.stream = true → call.Shape
  once : call.stream = false → call.got.length ≤ 1 ∧ (call.ended = false → call.got = [])
  complete : roomy → call.stream = true →
    call.got <+: call.made ∧ (call.ended = false → call.made = call.got ++ (call.held ++ air))

section Sound

variable {call} {roomy : Prop} {air air' news : List (Reply Value)}

theorem live_of_number (hnumber : call.number.isSome = true) (hsound : call.Sound roomy air)
    (hended : call.ended = false) : call.live = true := by
  have hcreated : call.stage ≠ .created := by
    intro hstage
    simp [hsound.created hstage] at hnumber
  cases hstage : call.stage with
  | created => exact absurd hstage hcreated
  | ended raised => simp [Call.ended, hstage] at hended
  | _ => simp [live, hstage]

theorem live_of_ended (hended : call.ended = true) : call.live = false := by
  unfold Call.ended at hended
  split at hended
  next hstage => simp [live, hstage]
  next => cases hended

theorem Sound.flow {queue scheduled channel made : List (Reply Value)}
    (hsound : call.Sound roomy air) (hmade : made = call.made ++ news)
    (hsilent : call.home = none → news = [])
    (hflow : (queue ++ (scheduled ++ channel) ++ air').Sublist (call.held ++ air ++ news))
    (hexact : roomy → call.stream = true → call.ended = false →
      queue ++ (scheduled ++ channel) ++ air' = call.held ++ air ++ news)
    (hnear : call.home = some call.node → scheduled = [] ∧ channel = [] ∧ air' = []) :
    { call with queue, scheduled, channel, made }.Sound roomy air' where
  registered := hsound.registered
  created := hsound.created
  unsent := hsound.unsent
  silent hhome := by
    have hnone := hsound.silent hhome
    simp [hmade, hnone, hsilent hhome]
  near := hnear
  sublist := by
    subst hmade
    refine ((List.Sublist.refl call.got).append hflow).trans ?_
    rw [← List.append_assoc]
    exact hsound.sublist.append_right news
  shape := hsound.shape
  once := hsound.once
  complete hroomy hstream := by
    subst hmade
    obtain ⟨hfront, hall⟩ := hsound.complete hroomy hstream
    refine ⟨hfront.trans (List.prefix_append ..), fun hended => ?_⟩
    calc call.made ++ news = call.got ++ (call.held ++ air ++ news) := by
          rw [hall hended]; simp only [List.append_assoc]
      _ = call.got ++ (queue ++ (scheduled ++ channel) ++ air') := by
          rw [hexact hroomy hstream hended]

theorem ident_put (reply : Reply Value) : (call.put reply).ident = call.ident := by
  unfold put
  split <;> rfl

theorem Sound.put {scheduled made : List (Reply Value)} {reply : Reply Value}
    (hsound : call.Sound roomy air) (hmade : made = call.made ++ news)
    (hsilent : call.home = none → news = [])
    (hflow : call.queue ++ [reply] ++ (scheduled ++ call.channel) ++ air = call.held ++ air ++ news)
    (hnear : call.home = some call.node → scheduled = [] ∧ call.channel = [] ∧ air = []) :
    ({ call with scheduled, made }.put reply).Sound roomy air := by
  unfold Call.put
  split
  next hfull =>
    refine hsound.flow hmade hsilent ?_ ?_ hnear
    · rw [← hflow]
      exact ((List.sublist_append_left ..).append_right _).append_right _
    · intro _ hstream _
      simp [maxsize, hstream] at hfull
  next => exact hsound.flow hmade hsilent (hflow ▸ .refl _) (fun _ _ _ => hflow) hnear

theorem Sound.finish {raised : Option Exc} (hsound : call.Sound roomy air)
    (hshape : call.stream = true → { call with stage := .ended raised }.Shape) :
    { call with stage := .ended raised }.Sound roomy air where
  registered := by simp [live]
  created := by simp
  unsent := by simp
  silent := hsound.silent
  near := hsound.near
  sublist := hsound.sublist
  shape := hshape
  once hask := ⟨(hsound.once hask).1, by simp [Call.ended]⟩
  complete hroomy hstream := ⟨(hsound.complete hroomy hstream).1, by simp [Call.ended]⟩

theorem Sound.turn {stage : Stage} {number : Option Nat} {home : Option String}
    (hsound : call.Sound roomy air) (hended : call.ended = false) (hstage : stage ≠ .created)
    (hnumber : number.isSome = true) (hunsent : stage = .sending → home = none)
    (hhome : call.home.isSome = true → home = call.home)
    (hnear : home = some call.node → call.scheduled = [] ∧ call.channel = [] ∧ air = [])
    (hshape : call.stream = true → { call with stage, number, home }.Shape) :
    { call with stage, number, home }.Sound roomy air where
  registered _ := hnumber
  created hcreated := absurd hcreated hstage
  unsent hbefore := hunsent (hbefore.resolve_left hstage)
  silent hnone := by
    refine hsound.silent (Option.not_isSome_iff_eq_none.mp fun hsome => ?_)
    have heq := hhome hsome
    simp only at hnone
    rw [← heq, hnone] at hsome
    simp at hsome
  near := hnear
  sublist := hsound.sublist
  shape := hshape
  once hask := ⟨(hsound.once hask).1, fun _ => (hsound.once hask).2 hended⟩
  complete hroomy hstream :=
    ⟨(hsound.complete hroomy hstream).1, fun _ => (hsound.complete hroomy hstream).2 hended⟩

theorem Sound.take {stage : Stage} {reply : Reply Value} {queue : List (Reply Value)}
    (hsound : call.Sound roomy air) (hwaiting : call.stage = .waiting)
    (hqueue : call.queue = reply :: queue) (hstage : stage ≠ .created ∧ stage ≠ .sending)
    (hask : call.stream = false → { call with stage }.ended = true)
    (hshape : call.stream = true →
      { call with queue, got := call.got ++ [reply], stage }.Shape) :
    { call with queue, got := call.got ++ [reply], stage }.Sound roomy air := by
  have hlive : call.live = true := by simp [live, hwaiting]
  have hended : call.ended = false := by simp [Call.ended, hwaiting]
  have hheld : call.got ++ [reply] ++ (queue ++ (call.scheduled ++ call.channel) ++ air) =
      call.got ++ (call.held ++ air) := by
    simp [held, hqueue]
  exact {
    registered := fun _ => hsound.registered hlive
    created := fun hcreated => absurd hcreated hstage.1
    unsent := fun hbefore => absurd hbefore (not_or.mpr hstage)
    silent := hsound.silent
    near := hsound.near
    sublist := hheld ▸ hsound.sublist
    shape := hshape
    once := fun hstream => by
      have hgot := (hsound.once hstream).2 hended
      refine ⟨by simp [hgot], fun hfalse => absurd (hask hstream) ?_⟩
      exact Bool.eq_false_iff.mp hfalse
    complete := fun hroomy hstream => by
      have hmade := (hsound.complete hroomy hstream).2 hended
      rw [← hheld] at hmade
      exact ⟨⟨_, hmade.symm⟩, fun _ => hmade⟩ }

theorem Shape.give (hshape : call.Shape) (exc : Exc) :
    { call with stage := .ended (some exc) }.Shape := by
  unfold Shape at hshape ⊢
  split at hshape
  all_goals first | exact .inl hshape | exact .inr hshape | exact hshape

end Sound

end Call

structure Call.Persists (call after : Call Msg Value) : Prop where
  msg : after.msg = call.msg
  stream : after.stream = call.stream
  node : after.node = call.node
  number : call.number.isSome = true → after.number = call.number
  home : call.home.isSome = true → after.home = call.home

theorem Call.Persists.refl {call : Call Msg Value} : call.Persists call :=
  ⟨rfl, rfl, rfl, fun _ => rfl, fun _ => rfl⟩

theorem Call.Persists.trans {call after last : Call Msg Value} (hpersists : call.Persists after)
    (hlater : after.Persists last) : call.Persists last where
  msg := hlater.msg.trans hpersists.msg
  stream := hlater.stream.trans hpersists.stream
  node := hlater.node.trans hpersists.node
  number hsome := by
    have hnumber := hpersists.number hsome
    exact (hlater.number (hnumber ▸ hsome)).trans hnumber
  home hsome := by
    have hhome := hpersists.home hsome
    exact (hlater.home (hhome ▸ hsome)).trans hhome

def Frame.answers (id : CallId) (frame : Frame Value) : Option (Reply Value) :=
  if frame.call = some id then some frame.reply else none

namespace Traffic

def air (traffic : Traffic Msg Value) (id : CallId) (call : Call Msg Value) : List (Reply Value) :=
  call.home.elim [] fun home => (traffic.wire home call.node).filterMap (Frame.answers id)

structure Kept (roomy : Prop) (traffic : Traffic Msg Value) : Prop where
  directory : Directory traffic.ident traffic.nextAsk traffic.names traffic.wire
  sound : ∀ {id : CallId} {call : Call Msg Value}, traffic.calls[id]? = some call →
    call.Sound roomy (traffic.air id call)

section Changes

variable {traffic next : Traffic Msg Value} {id other : CallId} {call last : Call Msg Value}
  {change : Call Msg Value → Call Msg Value} {roomy : Prop}

theorem ident_of (hcall : traffic.calls[id]? = some call) : traffic.ident id = some call.ident := by
  rw [ident, hcall]
  rfl

theorem of_modify (hlast : (traffic.calls.modify id change)[other]? = some last) :
    (other = id ∧ ∃ call, traffic.calls[id]? = some call ∧ last = change call) ∨
      (other ≠ id ∧ traffic.calls[other]? = some last) := by
  rw [List.getElem?_modify] at hlast
  obtain ⟨call, hcall, rfl⟩ := Option.map_eq_some_iff.mp hlast
  by_cases hother : id = other
  · subst hother
    exact .inl ⟨rfl, call, hcall, if_pos rfl⟩
  · rw [if_neg hother]
    exact .inr ⟨fun heq => hother heq.symm, hcall⟩

theorem ident_modify (hcall : traffic.calls[id]? = some call)
    (hcalls : next.calls = traffic.calls.modify id change) :
    next.ident = Function.update traffic.ident id (some (change call).ident) := by
  funext other
  rw [ident, hcalls, List.getElem?_modify]
  by_cases hother : id = other
  · subst hother
    simp [hcall]
  · rw [Function.update_of_ne (Ne.symm hother), ident]
    simp [hother]

theorem air_congr (hhome : last.home = call.home) (hnode : last.node = call.node) :
    traffic.air id last = traffic.air id call := by
  rw [air, hhome, hnode, air]

theorem Kept.alter (hkept : traffic.Kept roomy) (hcall : traffic.calls[id]? = some call)
    (hcalls : next.calls = traffic.calls.modify id change)
    (hair : ∀ other last, other ≠ id → next.air other last = traffic.air other last)
    {after : Ident} (hident : (change call).ident = after)
    (hdirectory : Directory (Function.update traffic.ident id (some after)) next.nextAsk next.names
      next.wire)
    (hsound : (change call).Sound roomy (next.air id (change call))) : next.Kept roomy := by
  constructor
  · rw [ident_modify hcall hcalls, hident]
    exact hdirectory
  · intro other last hlast
    rw [hcalls] at hlast
    rcases of_modify hlast with ⟨rfl, before, hbefore, rfl⟩ | ⟨hother, hbefore⟩
    · obtain rfl := Option.some.inj (hcall.symm.trans hbefore)
      exact hsound
    · rw [hair other last hother]
      exact hkept.sound hbefore

theorem Kept.modify (hkept : traffic.Kept roomy) (hcall : traffic.calls[id]? = some call)
    (hident : (change call).ident = call.ident)
    (hsound : (change call).Sound roomy (traffic.air id call)) :
    (traffic.modify id change).Kept roomy := by
  refine hkept.alter hcall rfl (fun _ _ _ => rfl) hident ?_ ?_
  · rw [← ident_of hcall, Function.update_eq_self]
    exact hkept.directory
  · change (change call).Sound roomy (traffic.air id (change call))
    rw [air_congr (congrArg Ident.home hident) (congrArg Ident.node hident)]
    exact hsound

theorem modify_modify (change again : Call Msg Value → Call Msg Value) :
    (traffic.modify id change).modify id again = traffic.modify id (again ∘ change) := by
  simp only [Traffic.modify, List.modify_modify_eq]

theorem wire_setWire (source target : String) (frames : List (Frame Value)) (start goal : String) :
    (traffic.setWire source target frames).wire start goal =
      if start = source ∧ goal = target then frames else traffic.wire start goal := by
  by_cases hsource : start = source
  · subst hsource
    by_cases htarget : goal = target <;> simp [setWire, htarget]
  · simp [setWire, hsource]

theorem air_setWire (source target : String) (frames : List (Frame Value)) :
    (traffic.setWire source target frames).air id call =
      if call.home = some source ∧ call.node = target then frames.filterMap (Frame.answers id)
      else traffic.air id call := by
  unfold air
  cases call.home with
  | none => simp
  | some home =>
      simp only [Option.elim_some, wire_setWire, Option.some.injEq]
      split <;> rfl

theorem Kept.rewire (hkept : traffic.Kept roomy) (hcall : traffic.calls[id]? = some call)
    (hident : (change call).ident = call.ident) {source target : String} (hnode : call.node = target)
    (hhome : call.home = some source) {frames : List (Frame Value)}
    (hframes : ∀ frame ∈ frames, source ≠ target ∧
      ∃ id, frame.call = some id ∧ Asked traffic.ident id target frame.dstActor source)
    (hothers : ∀ other, other ≠ id → frames.filterMap (Frame.answers other) =
      (traffic.wire source target).filterMap (Frame.answers other))
    (hsound : (change call).Sound roomy (frames.filterMap (Frame.answers id))) :
    ((traffic.setWire source target frames).modify id change).Kept roomy := by
  have hair (other : CallId) (last : Call Msg Value) :
      ((traffic.setWire source target frames).modify id change).air other last =
        (traffic.setWire source target frames).air other last := rfl
  refine hkept.alter hcall rfl ?_ hident ?_ ?_
  · intro other last hother
    rw [hair, air_setWire]
    split
    next hslot => rw [hothers other hother, air, hslot.1, hslot.2, Option.elim_some]
    next => rfl
  · rw [← ident_of hcall, Function.update_eq_self]
    refine ⟨hkept.directory.lt, hkept.directory.unique, hkept.directory.names, ?_⟩
    intro start goal frame hframe
    change frame ∈ (traffic.setWire source target frames).wire start goal at hframe
    rw [wire_setWire] at hframe
    split at hframe
    next hslot =>
      obtain ⟨rfl, rfl⟩ := hslot
      exact hframes frame hframe
    next => exact hkept.directory.frames hframe
  · have hslot : (change call).home = some source ∧ (change call).node = target :=
      ⟨(congrArg Ident.home hident).trans hhome, (congrArg Ident.node hident).trans hnode⟩
    rw [hair, air_setWire, if_pos hslot]
    exact hsound

theorem names_setName (node name : String) (owner : Option Owner) (target text : String) :
    (traffic.setName node name owner).names target text =
      if target = node ∧ text = name then owner else traffic.names target text := by
  by_cases hnode : target = node
  · subst hnode
    by_cases hname : text = name <;> simp [setName, hname]
  · simp [setName, hnode]

theorem Kept.air_eq_nil (hkept : traffic.Kept roomy) (hcall : traffic.calls[id]? = some call)
    (hhome : call.home = none) :
    traffic.air id last = [] := by
  rw [air]
  cases last.home with
  | none => rfl
  | some home =>
      refine List.filterMap_eq_nil_iff.mpr fun frame hframe => ?_
      obtain ⟨_, caller, hcaller, known, hknown, _, _, hsome⟩ := hkept.directory.frames hframe
      rw [Frame.answers, if_neg]
      intro hid
      obtain rfl := Option.some.inj (hcaller.symm.trans hid)
      obtain rfl := Option.some.inj ((ident_of hcall).symm.trans hknown)
      simp [Call.ident, hhome] at hsome

theorem Kept.finish (hkept : traffic.Kept roomy) (hcall : traffic.calls[id]? = some call)
    (hlive : call.live = true) {raised : Option Exc}
    (hsame : last.node = call.node ∧ last.number = call.number ∧
      (call.home.isSome = true → last.home = call.home))
    (hsound : { last with stage := .ended raised }.Sound roomy (traffic.air id last)) :
    (traffic.finish id last raised).Kept roomy := by
  obtain ⟨hnode, hnumber, hhome⟩ := hsame
  obtain ⟨number, hsome⟩ := Option.isSome_iff_exists.mp ((hkept.sound hcall).registered hlive)
  have hname : last.name = some (askName number) := by rw [Call.name, hnumber, hsome]; rfl
  rw [Traffic.finish, hname]
  have hfinish := hkept.directory.finish (ident_of hcall) hlive
    (show call.ident.name = some (askName number) by simp [Ident.name, Call.ident, hsome]) hhome
    (names_setName call.node (askName number) none)
  refine hkept.alter hcall rfl (fun _ _ _ => rfl) ?_ (hnode ▸ hfinish) hsound
  simp [Call.ident, hnode, hnumber, Call.live]

end Changes

/-! ### The steps of a caller -/

section Caller

variable {traffic next : Traffic Msg Value} {id : CallId} {roomy : Prop}

variable (hkept : traffic.Kept roomy)

include hkept

theorem Kept.create (node : String) (stream : Bool) (msgs : List Msg) :
    (traffic.create node stream msgs).Kept roomy := by
  have hcases {other : CallId} {last : Call Msg Value}
      (hlast : (traffic.create node stream msgs).calls[other]? = some last) :
      traffic.calls[other]? = some last ∨ ∃ msg, last = { node, stream, msg } := by
    simp only [Traffic.create, List.getElem?_append] at hlast
    split at hlast
    · exact .inl hlast
    · obtain ⟨msg, _, rfl⟩ := List.mem_map.mp (List.mem_of_getElem? hlast)
      exact .inr ⟨msg, rfl⟩
  constructor
  · refine hkept.directory.grow ?_ ?_
    · intro other known hknown
      obtain ⟨call, hcall, rfl⟩ := Option.map_eq_some_iff.mp hknown
      refine ident_of ?_
      simp only [Traffic.create]
      rw [List.getElem?_append_left (List.getElem?_eq_some_iff.mp hcall).1, hcall]
    · intro other known hknown
      obtain ⟨last, hlast, rfl⟩ := Option.map_eq_some_iff.mp hknown
      rcases hcases hlast with hcall | ⟨msg, rfl⟩
      · exact .inl (ident_of hcall)
      · exact .inr ⟨rfl, rfl⟩
  · intro other last hlast
    rcases hcases hlast with hcall | ⟨msg, rfl⟩
    · exact hkept.sound hcall
    · exact ⟨by simp [Call.live], fun _ => rfl, fun _ => rfl, fun _ => rfl, by simp,
        by simp [Call.held, air],
        fun _ => by simp [Call.Shape, Items], by simp, fun _ _ => by simp [Call.held, air]⟩

theorem Kept.register (hnext : traffic.register id = some next) : next.Kept roomy := by
  revert hnext
  fun_cases Traffic.register <;> rintro ⟨⟩
  case case1 call hcall hcreated number _ _ =>
    have hsound := hkept.sound hcall
    have hretain := hkept.directory.retain (ident_of hcall) (Nat.le_succ _) fun _ => rfl
    refine hkept.alter hcall rfl (fun _ _ _ => rfl) ?_ hretain ?_
    · simp [Call.ident, Call.live, hcreated]
    · exact hsound.finish fun hstream => (hsound.shape hstream).give _
  case case2 call hcall hcreated number _ hfree =>
    have hsound := hkept.sound hcall
    have hregister := hkept.directory.register (ident_of hcall) (hsound.created hcreated)
      (by simp [Call.ident, Call.live, hcreated])
      (Option.not_isSome_iff_eq_none.mp hfree)
      (names_setName call.node (askName traffic.nextAsk) (some (.call id)))
    refine hkept.alter hcall rfl (fun _ _ _ => rfl) ?_ hregister ?_
    · simp [Call.ident, Call.live, number]
    · refine hsound.turn (by simp [Call.ended, hcreated]) (by simp) rfl
        (fun _ => hsound.unsent (.inl hcreated)) (fun _ => rfl) hsound.near fun hstream => ?_
      have hshape := hsound.shape hstream
      simp only [Call.Shape, hcreated] at hshape ⊢
      exact hshape

theorem Kept.send {home : Option String} {raised : Option Exc}
    (hnext : traffic.send id home raised = some next) : next.Kept roomy := by
  -- Nothing has come back yet, whichever node the message goes to.
  have hcalm {call : Call Msg Value} (hcall : traffic.calls[id]? = some call)
      (hsending : call.stage = .sending) : traffic.air id { call with home } = [] ∧
        { call with stage := .waiting, home }.Sound roomy [] := by
    have hsound := hkept.sound hcall
    have hhome := hsound.unsent (.inr hsending)
    have hair : traffic.air id call = [] := hkept.air_eq_nil hcall hhome
    rw [hair] at hsound
    have hheld := hsound.sublist
    rw [hsound.silent hhome, List.sublist_nil] at hheld
    simp only [Call.held, List.append_nil, List.append_eq_nil_iff] at hheld
    refine ⟨hkept.air_eq_nil hcall hhome, ?_⟩
    refine hsound.turn (by simp [Call.ended, hsending]) (by simp)
      (hsound.registered (by simp [Call.live, hsending])) (by simp) (by simp [hhome]) ?_ ?_
    · exact fun _ => ⟨hheld.2.2.1, hheld.2.2.2, rfl⟩
    · intro hstream
      have hshape := hsound.shape hstream
      simp only [Call.Shape, hsending] at hshape ⊢
      exact hshape
  revert hnext
  fun_cases Traffic.send <;> rintro ⟨⟩
  case case1 call hcall hsending =>
    obtain ⟨hair, hsound⟩ := hcalm hcall hsending
    have hhome := (hkept.sound hcall).unsent (.inr hsending)
    have hretain := hkept.directory.retain (ident_of hcall) le_rfl
      (show call.ident.home.isSome = true → home = call.ident.home by simp [Call.ident, hhome])
    refine hkept.alter hcall rfl (fun _ _ _ => rfl) ?_ hretain ?_
    · simp [Call.ident, Call.live, hsending]
    · rw [← hair] at hsound
      exact hsound
  case case2 call hcall hsending exc =>
    obtain ⟨hair, hsound⟩ := hcalm hcall hsending
    have hhome := (hkept.sound hcall).unsent (.inr hsending)
    refine hkept.finish hcall (by simp [Call.live, hsending]) ?_ ?_
    · exact ⟨rfl, rfl, by simp [hhome]⟩
    · rw [hair]
      exact hsound.finish fun hstream => (hsound.shape hstream).give exc

theorem Kept.receive (hnext : traffic.receive id = some next) : next.Kept roomy := by
  revert hnext
  fun_cases Traffic.receive <;> rintro ⟨⟩
  case case1 call hcall queue hwaiting hstream value hqueue =>
    have hsound := hkept.sound hcall
    refine hkept.finish hcall (by simp [Call.live, hwaiting]) ?_ ?_
    · exact ⟨rfl, rfl, fun _ => rfl⟩
    · refine (hsound.finish fun _ => (hsound.shape hstream).give _).flow (List.append_nil _).symm
        (fun _ => rfl) ?_ (by simp [Call.ended]) hsound.near
      simp only [Call.held, hqueue, List.append_nil, List.cons_append]
      exact List.sublist_cons_self ..
  case case2 call hcall queue hwaiting hstream value hqueue =>
    have hsound := hkept.sound hcall
    refine hkept.modify hcall (by simp [Call.ident, Call.live, hwaiting])
      (hsound.take hwaiting hqueue (by simp) (by simp [hstream]) fun _ => ?_)
    have hshape := hsound.shape hstream
    simp only [Call.Shape, hwaiting] at hshape ⊢
    simpa [Items, Reply.isItem, or_imp, forall_and] using hshape
  case case3 call hcall queue hwaiting hstream value hqueue =>
    have hsound := hkept.sound hcall
    refine hkept.modify hcall (by simp [Call.ident, Call.live, hwaiting])
      (hsound.take hwaiting hqueue (by simp) (by simp [hstream]) fun _ => ?_)
    have hshape := hsound.shape hstream
    simp only [Call.Shape, hwaiting] at hshape ⊢
    exact ⟨call.got, value, rfl, hshape⟩
  case case4 call hcall reply queue hqueue hwaiting hask =>
    have hsound := hkept.sound hcall
    refine hkept.finish hcall (by simp [Call.live, hwaiting]) ?_ ?_
    · exact ⟨rfl, rfl, fun _ => rfl⟩
    · exact hsound.take hwaiting hqueue (by simp) (by simp [Call.ended]) fun hstream => absurd hstream hask

theorem Kept.resume (hnext : traffic.resume id = some next) : next.Kept roomy := by
  revert hnext
  fun_cases Traffic.resume <;> rintro ⟨⟩
  case case1 call hcall hyielded =>
    have hsound := hkept.sound hcall
    refine hkept.finish hcall (by simp [Call.live, hyielded]) ⟨rfl, rfl, fun _ => rfl⟩
      (hsound.finish fun hstream => ?_)
    have hshape := hsound.shape hstream
    simp only [Call.Shape, hyielded] at hshape ⊢
    exact hshape
  case case2 call hcall hyielded =>
    have hsound := hkept.sound hcall
    refine hkept.modify hcall (by simp [Call.ident, Call.live, hyielded]) ?_
    refine hsound.turn (by simp [Call.ended, hyielded]) (by simp)
      (hsound.registered (by simp [Call.live, hyielded])) (by simp) (fun _ => rfl) hsound.near
      fun hstream => ?_
    have hshape := hsound.shape hstream
    simp only [Call.Shape, hyielded] at hshape ⊢
    exact hshape

theorem Kept.abort {exc : Exc} (hnext : traffic.abort id exc = some next) : next.Kept roomy := by
  have hgive {call : Call Msg Value} (hcall : traffic.calls[id]? = some call) :
      { call with stage := .ended (some exc) }.Sound roomy (traffic.air id call) :=
    (hkept.sound hcall).finish fun hstream => ((hkept.sound hcall).shape hstream).give exc
  revert hnext
  fun_cases Traffic.abort <;> rintro ⟨⟩
  case case1 call hcall hcreated =>
    exact hkept.modify hcall (by simp [Call.ident, Call.live, hcreated]) (hgive hcall)
  case case2 call hcall hwaiting =>
    exact hkept.finish hcall (by simp [Call.live, hwaiting]) ⟨rfl, rfl, fun _ => rfl⟩
      (hgive hcall)
  case case3 call hcall last hyielded =>
    exact hkept.finish hcall (by simp [Call.live, hyielded]) ⟨rfl, rfl, fun _ => rfl⟩
      (hgive hcall)

end Caller

/-! ### The way of a reply -/

def Addressed (ident : CallId → Option Ident) (home : String) (call : Option CallId)
    (info : Option MessageMeta) : Prop :=
  ∃ known, info = some known ∧ (call = none ∧ known.replyTo = none ∨
    ∃ id name, call = some id ∧ known.replyTo = some name ∧ Asked ident id known.src name home)

theorem Addressed.extends {ident later : CallId → Option Ident} {home : String}
    {call : Option CallId} {info : Option MessageMeta} (haddressed : Addressed ident home call info)
    (hextends : Extends ident later) : Addressed later home call info := by
  obtain ⟨known, hinfo, hnone | ⟨id, name, hcall, hreplyTo, hasked⟩⟩ := haddressed
  · exact ⟨known, hinfo, .inl hnone⟩
  · exact ⟨known, hinfo, .inr ⟨id, name, hcall, hreplyTo, hasked.extends hextends⟩⟩

section Replies

variable {traffic next : Traffic Msg Value} {id : CallId} {call : Call Msg Value}
  {reply : Reply Value} {roomy : Prop} {node name : String}

section

variable (hkept : traffic.Kept roomy)

include hkept

theorem Kept.of_asked {home : String} (hasked : Asked traffic.ident id node name home) :
    ∃ call, traffic.calls[id]? = some call ∧ call.node = node ∧ call.home = some home ∧
      (call.ended = false → traffic.names node name = some (.call id)) ∧
      ∀ other, traffic.names node name = some (.call other) → other = id := by
  obtain ⟨known, hknown, hnode, hname, hhome⟩ := hasked
  obtain ⟨call, hcall, rfl⟩ := Option.map_eq_some_iff.mp hknown
  refine ⟨call, hcall, hnode, hhome, fun hended => ?_, fun other hother => ?_⟩
  · have hnumber : call.number.isSome = true := by
      simpa [Ident.name, Call.ident] using congrArg Option.isSome hname
    have hlive := Call.live_of_number hnumber (hkept.sound hcall) hended
    exact hkept.directory.names.mpr ⟨_, hknown, hlive, hnode, hname⟩
  · obtain ⟨same, hsame, _, _, hequal⟩ := hkept.directory.names.mp hother
    exact hkept.directory.eq_of_name hsame hequal hknown hname

theorem Kept.raise (exc : Raised) : (traffic.raise exc).Kept roomy :=
  ⟨hkept.directory, hkept.sound⟩

theorem Kept.sendLocal (hasked : Asked traffic.ident id node name node) (reply : Reply Value) :
    (traffic.sendLocal node name (some id) reply).Kept roomy := by
  obtain ⟨call, hcall, hnode, hhome, hregistered, hown⟩ := hkept.of_asked hasked
  have hsound := hkept.sound hcall
  unfold Traffic.sendLocal
  split
  · exact hkept.raise _
  next howner =>
    refine hkept.modify hcall rfl
      (hsound.flow rfl (by simp [hhome]) (List.sublist_append_left ..) ?_ hsound.near)
    intro _ _ hended
    rw [hregistered hended] at howner
    cases howner
  next other hother =>
    obtain rfl := hown other hother
    obtain ⟨hscheduled, hchannel, hair⟩ := hsound.near (hhome.trans (congrArg some hnode.symm))
    change ((traffic.modify other _).modify other _).Kept roomy
    rw [modify_modify]
    refine hkept.modify hcall (Call.ident_put reply)
      (hsound.put rfl (by simp [hhome]) ?_ hsound.near)
    simp [Call.held, hscheduled, hchannel, hair]

theorem Kept.sendRemote {source target : String} (hremote : source ≠ target)
    (hasked : Asked traffic.ident id target name source) (reply : Reply Value)
    (failure : Option Exc) :
    (traffic.sendRemote source target name (some id) reply failure).Kept roomy := by
  obtain ⟨call, hcall, hnode, hhome, -⟩ := hkept.of_asked hasked
  have hsound := hkept.sound hcall
  unfold Traffic.sendRemote
  split
  · exact hkept.raise _
  · change ((traffic.setWire source target _).modify id _).Kept roomy
    refine hkept.rewire hcall rfl hnode hhome ?_ ?_ ?_
    · intro frame hframe
      rcases List.mem_append.mp hframe with hbefore | hnew
      · exact hkept.directory.frames hbefore
      · obtain rfl := List.mem_singleton.mp hnew
        exact ⟨hremote, id, rfl, hasked⟩
    · intro other hother
      simp [List.filterMap_append, Frame.answers, Ne.symm hother]
    · have hflow : call.queue ++ (call.scheduled ++ call.channel) ++
          (traffic.wire source target ++ [Frame.mk name reply (some id)]).filterMap
            (Frame.answers id) = call.held ++ traffic.air id call ++ [reply] := by
        simp [Call.held, air, hhome, hnode, List.filterMap_append, Frame.answers]
      refine hsound.flow rfl (by simp [hhome]) (hflow ▸ .refl _) (fun _ _ _ => hflow) fun hnear => ?_
      exact absurd (Option.some.inj (hhome.symm.trans hnear)) (hnode ▸ hremote)

theorem Kept.answer {home : String} {caller : Option CallId} {info : Option MessageMeta}
    (haddressed : Addressed traffic.ident home caller info) (reply : Reply Value)
    (failure : Option Exc) : (traffic.answer home caller info reply failure).Kept roomy := by
  obtain ⟨known, rfl, ⟨rfl, hnone⟩ | ⟨id, name, rfl, hreplyTo, hasked⟩⟩ := haddressed
  · simp only [Traffic.answer, hnone]
    exact hkept.raise _
  · simp only [Traffic.answer, hreplyTo]
    split
    next hlocal =>
      subst hlocal
      exact hkept.sendLocal hasked reply
    next hremote => exact hkept.sendRemote (Ne.symm hremote) hasked reply failure

end

def room (traffic : Traffic Msg Value) (source target : String) : Bool :=
  match traffic.wire source target with
  | [] => true
  | frame :: _ =>
      match traffic.names target frame.dstActor with
      | some (.call id) =>
          (traffic.calls[id]?).all fun call =>
            !call.stream || call.channel.length < Bridge.channelCapacity
      | _ => true

theorem Kept.deliver (hkept : traffic.Kept roomy) {source target : String}
    (hroom : roomy → traffic.room source target = true)
    (hnext : traffic.deliver source target = some next) : next.Kept roomy := by
  unfold Traffic.deliver at hnext
  split at hnext
  · cases hnext
  next frame frames hwire =>
  have hown : frame ∈ traffic.wire source target := by simp [hwire]
  obtain ⟨hremote, id, hframe, hasked⟩ := hkept.directory.frames hown
  obtain ⟨call, hcall, hnode, hhome, hregistered, hmine⟩ := hkept.of_asked hasked
  have hsound := hkept.sound hcall
  have hair : traffic.air id call = frame.reply :: frames.filterMap (Frame.answers id) := by
    simp [air, hhome, hnode, hwire, Frame.answers, hframe]
  have hnear {Goal : Prop} (hsame : call.home = some call.node) : Goal :=
    absurd (Option.some.inj (hhome.symm.trans hsame)) (hnode ▸ hremote)
  -- Taking the frame from the wire changes nothing for the other calls.
  have hrewire {change : Call Msg Value → Call Msg Value} (hident : (change call).ident = call.ident)
      (hchanged : (change call).Sound roomy (frames.filterMap (Frame.answers id))) :
      ((traffic.setWire source target frames).modify id change).Kept roomy := by
    refine hkept.rewire hcall hident hnode hhome ?_ ?_ hchanged
    · exact fun other hother => hkept.directory.frames (by simp [hwire, hother])
    · intro other hother
      simp [hwire, Frame.answers, hframe, Ne.symm hother]
  have hlost : (call.held ++ frames.filterMap (Frame.answers id)).Sublist
      (call.held ++ traffic.air id call ++ []) := by
    rw [hair, List.append_nil]
    exact (List.Sublist.refl _).append (List.sublist_cons_self ..)
  simp only at hnext
  split at hnext
  next other hother =>
    obtain rfl := hmine other hother
    obtain rfl := Option.some.inj hnext
    by_cases hspace : call.channel.length < Bridge.channelCapacity
    · refine hrewire (by simp [hspace, Call.ident, Call.live]) ?_
      simp only [hspace, if_true]
      have hflow : call.queue ++ (call.scheduled ++ (call.channel ++ [frame.reply])) ++
          frames.filterMap (Frame.answers other) =
          call.held ++ traffic.air other call ++ [] := by
        simp [Call.held, hair]
      exact hsound.flow (List.append_nil _).symm (fun _ => rfl) (hflow ▸ .refl _)
        (fun _ _ _ => hflow) hnear
    · refine hrewire (by simp [hspace]) ?_
      simp only [hspace, if_false]
      refine hsound.flow (List.append_nil _).symm (fun _ => rfl) hlost ?_ hnear
      intro hroomy hstream _
      simpa [room, hwire, hother, hcall, hstream, hspace] using hroom hroomy
  next howner =>
    obtain rfl := Option.some.inj hnext
    have hcalls : traffic.calls.modify id (fun call => call) = traffic.calls := List.modify_id ..
    have hsame : traffic.setWire source target frames =
        (traffic.setWire source target frames).modify id fun call => call := by
      simp [Traffic.modify, setWire, hcalls]
    rw [hsame]
    refine hrewire rfl (hsound.flow (List.append_nil _).symm (fun _ => rfl) hlost ?_ hnear)
    intro _ _ hended
    exact absurd (hregistered hended) (howner id)

/-- A reply is passed on, or it is not one to a stream. -/
def spares (traffic : Traffic Msg Value) (id : CallId) (passed : Bool) : Bool :=
  passed || (traffic.calls[id]?).all fun call => !call.stream

theorem not_spares (hcall : traffic.calls[id]? = some call) (hstream : call.stream = true) :
    traffic.spares id false ≠ true := by
  simp [spares, hcall, hstream]

theorem Kept.drain (hkept : traffic.Kept roomy) {readable : Bool}
    (hspares : roomy → traffic.spares id readable = true)
    (hnext : traffic.drain id readable = some next) : next.Kept roomy := by
  revert hnext
  fun_cases Traffic.drain <;> rintro ⟨⟩
  next call hcall reply channel hchannel =>
  have hsound := hkept.sound hcall
  have hnear {Goal : Prop} (hnear : call.home = some call.node) : Goal :=
    absurd (hsound.near hnear).2.1 (by simp [hchannel])
  cases readable with
  | true =>
      refine hkept.modify hcall rfl ?_
      have hflow : call.queue ++ (call.scheduled ++ [reply] ++ channel) ++ traffic.air id call =
          call.held ++ traffic.air id call ++ [] := by
        simp [Call.held, hchannel]
      exact hsound.flow (List.append_nil _).symm (fun _ => rfl) (hflow ▸ .refl _)
        (fun _ _ _ => hflow) hnear
  | false =>
      refine hkept.modify hcall rfl (hsound.flow (List.append_nil _).symm (fun _ => rfl) ?_
        (fun hroomy hstream _ => absurd (hspares hroomy) (not_spares hcall hstream)) hnear)
      simp [Call.held, hchannel]

theorem Kept.callback (hkept : traffic.Kept roomy) {decodes : Bool}
    (hspares : roomy → traffic.spares id decodes = true)
    (hnext : traffic.callback id decodes = some next) : next.Kept roomy := by
  revert hnext
  fun_cases Traffic.callback <;> rintro ⟨⟩
  next call hcall reply scheduled hscheduled =>
  have hsound := hkept.sound hcall
  have hnear {Goal : Prop} (hnear : call.home = some call.node) : Goal :=
    absurd (hsound.near hnear).1 (by simp [hscheduled])
  cases decodes with
  | true =>
      exact hkept.modify hcall (Call.ident_put reply) (hsound.put (List.append_nil _).symm
        (fun _ => rfl) (by simp [Call.held, hscheduled]) hnear)
  | false =>
      refine hkept.modify hcall rfl (hsound.flow (List.append_nil _).symm (fun _ => rfl) ?_
        (fun hroomy hstream _ => absurd (hspares hroomy) (not_spares hcall hstream)) hnear)
      simp [Call.held, hscheduled]

theorem Kept.setName (hkept : traffic.Kept roomy) {owner : Option Owner}
    (hbefore : ∀ id, traffic.names node name ≠ some (.call id))
    (howner : ∀ id, owner ≠ some (.call id)) : (traffic.setName node name owner).Kept roomy := by
  refine ⟨⟨hkept.directory.lt, hkept.directory.unique, ?_, hkept.directory.frames⟩, hkept.sound⟩
  intro target text id
  refine Iff.trans ?_ hkept.directory.names
  rw [names_setName]
  split
  next hslot => simp [hslot.1, hslot.2, howner, hbefore]
  next => rfl

end Replies

/-! ### What calls keep -/

def Grows (traffic next : Traffic Msg Value) : Prop :=
  ∀ (id : CallId) (call : Call Msg Value), traffic.calls[id]? = some call →
    ∃ after, next.calls[id]? = some after ∧ call.Persists after

section Grows

variable {traffic next : Traffic Msg Value} {id : CallId} {call : Call Msg Value} {roomy : Prop}

theorem Grows.extends (hgrows : traffic.Grows next) : Extends traffic.ident next.ident := by
  intro id known hknown
  obtain ⟨call, hcall, rfl⟩ := Option.map_eq_some_iff.mp hknown
  obtain ⟨after, hafter, hpersists⟩ := hgrows id call hcall
  exact ⟨after.ident, ident_of hafter, hpersists.node, hpersists.number, hpersists.home⟩

theorem Grows.modify {change : Call Msg Value → Call Msg Value}
    (hcalls : next.calls = traffic.calls.modify id change)
    (hchange : ∀ call, traffic.calls[id]? = some call → call.Persists (change call)) :
    traffic.Grows next := by
  intro other call hcall
  rw [hcalls, List.getElem?_modify, hcall]
  by_cases hother : id = other
  · subst hother
    exact ⟨change call, by simp, hchange call hcall⟩
  · exact ⟨call, by simp [hother], .refl⟩

theorem Grows.refl (hcalls : next.calls = traffic.calls) : traffic.Grows next :=
  fun _ call hcall => ⟨call, hcalls ▸ hcall, .refl⟩

theorem Grows.trans {last : Traffic Msg Value} (hgrows : traffic.Grows next)
    (hagain : next.Grows last) : traffic.Grows last := by
  intro id call hcall
  obtain ⟨after, hafter, hpersists⟩ := hgrows id call hcall
  obtain ⟨final, hfinal, hlater⟩ := hagain id after hafter
  exact ⟨final, hfinal, hpersists.trans hlater⟩

theorem grows_create (node : String) (stream : Bool) (msgs : List Msg) :
    traffic.Grows (traffic.create node stream msgs) := by
  intro id call hcall
  refine ⟨call, ?_, .refl⟩
  simp only [create]
  rw [List.getElem?_append_left (List.getElem?_eq_some_iff.mp hcall).1, hcall]

theorem calls_finish (last : Call Msg Value) (raised : Option Exc) :
    (traffic.finish id last raised).calls =
      traffic.calls.modify id fun _ => { last with stage := .ended raised } := by
  cases hname : last.name <;> simp [Traffic.finish, hname, Traffic.modify, setName]

theorem grows_finish (hcall : traffic.calls[id]? = some call) {last : Call Msg Value}
    (hpersists : call.Persists last) (raised : Option Exc) :
    traffic.Grows (traffic.finish id last raised) := by
  refine .modify (calls_finish last raised) fun before hbefore => ?_
  obtain rfl := Option.some.inj (hcall.symm.trans hbefore)
  exact ⟨hpersists.msg, hpersists.stream, hpersists.node, hpersists.number, hpersists.home⟩

theorem Kept.grows_register (hkept : traffic.Kept roomy) (hnext : traffic.register id = some next) :
    traffic.Grows next := by
  revert hnext
  fun_cases Traffic.register <;> rintro ⟨⟩
  case case1 => exact .modify rfl fun _ _ => ⟨rfl, rfl, rfl, fun _ => rfl, fun _ => rfl⟩
  case case2 call hcall hcreated number _ _ =>
    refine .modify rfl fun before hbefore => ?_
    obtain rfl := Option.some.inj (hcall.symm.trans hbefore)
    exact ⟨rfl, rfl, rfl, by simp [(hkept.sound hcall).created hcreated], fun _ => rfl⟩

theorem Kept.grows_send (hkept : traffic.Kept roomy) {home : Option String} {raised : Option Exc}
    (hnext : traffic.send id home raised = some next) : traffic.Grows next := by
  have hpersists {call : Call Msg Value} (hcall : traffic.calls[id]? = some call)
      (hsending : call.stage = .sending) : call.Persists { call with home } :=
    ⟨rfl, rfl, rfl, fun _ => rfl, by simp [(hkept.sound hcall).unsent (.inr hsending)]⟩
  revert hnext
  fun_cases Traffic.send <;> rintro ⟨⟩
  case case1 call hcall hsending =>
    refine .modify rfl fun before hbefore => ?_
    obtain rfl := Option.some.inj (hcall.symm.trans hbefore)
    exact ⟨rfl, rfl, rfl, fun _ => rfl, (hpersists hcall hsending).home⟩
  case case2 call hcall hsending exc => exact grows_finish hcall (hpersists hcall hsending) _

theorem Kept.asked_of_send (hkept : traffic.Kept roomy) {home : String} {raised : Option Exc}
    (hcall : traffic.calls[id]? = some call)
    (hnext : traffic.send id (some home) raised = some next) :
    ∃ name, call.name = some name ∧ Asked next.ident id call.node name home := by
  have hsent : call.stage = .sending ∧
      ∃ stage, next.calls[id]? = some { call with stage, home := some home } := by
    simp only [Traffic.send, hcall, Option.ite_none_right_eq_some] at hnext
    obtain ⟨hsending, hnext⟩ := hnext
    refine ⟨hsending, ?_⟩
    cases raised with
    | none =>
        obtain rfl := Option.some.inj hnext
        exact ⟨.waiting, by simp [Traffic.modify, hcall]⟩
    | some exc =>
        obtain rfl := Option.some.inj hnext
        exact ⟨.ended (some exc), by simp [calls_finish, hcall]⟩
  obtain ⟨hsending, stage, hlast⟩ := hsent
  obtain ⟨number, hnumber⟩ := Option.isSome_iff_exists.mp
    ((hkept.sound hcall).registered (by simp [Call.live, hsending]))
  refine ⟨askName number, by simp [Call.name, hnumber], _, ident_of hlast, rfl, ?_, rfl⟩
  simp [Ident.name, Call.ident, hnumber]

theorem grows_receive (hnext : traffic.receive id = some next) : traffic.Grows next := by
  revert hnext
  fun_cases Traffic.receive <;> rintro ⟨⟩
  case case1 call hcall queue _ _ _ _ => 
    refine grows_finish hcall ?_ _
    exact ⟨rfl, rfl, rfl, fun _ => rfl, fun _ => rfl⟩
  case case2 => exact .modify rfl fun _ _ => ⟨rfl, rfl, rfl, fun _ => rfl, fun _ => rfl⟩
  case case3 => exact .modify rfl fun _ _ => ⟨rfl, rfl, rfl, fun _ => rfl, fun _ => rfl⟩
  case case4 call hcall _ _ _ _ _ => 
    refine grows_finish hcall ?_ _
    exact ⟨rfl, rfl, rfl, fun _ => rfl, fun _ => rfl⟩

theorem grows_resume (hnext : traffic.resume id = some next) : traffic.Grows next := by
  revert hnext
  fun_cases Traffic.resume <;> rintro ⟨⟩
  case case1 call hcall _ => exact grows_finish hcall .refl _
  case case2 => exact .modify rfl fun _ _ => ⟨rfl, rfl, rfl, fun _ => rfl, fun _ => rfl⟩

theorem grows_abort {exc : Exc} (hnext : traffic.abort id exc = some next) : traffic.Grows next := by
  revert hnext
  fun_cases Traffic.abort <;> rintro ⟨⟩
  case case1 => exact .modify rfl fun _ _ => ⟨rfl, rfl, rfl, fun _ => rfl, fun _ => rfl⟩
  case case2 call hcall _ => exact grows_finish hcall .refl _
  case case3 call hcall _ _ => exact grows_finish hcall .refl _

theorem grows_put (reply : Reply Value) :
    traffic.Grows (traffic.modify id (·.put reply)) := by
  refine .modify rfl fun call _ => ?_
  unfold Call.put
  split
  · exact .refl
  · exact ⟨rfl, rfl, rfl, fun _ => rfl, fun _ => rfl⟩

theorem grows_credit (caller : Option CallId) (reply : Reply Value) :
    traffic.Grows (traffic.credit caller reply) := by
  cases caller with
  | none => exact .refl rfl
  | some id => exact .modify rfl fun _ _ => ⟨rfl, rfl, rfl, fun _ => rfl, fun _ => rfl⟩

theorem grows_answer (home : String) (caller : Option CallId) (info : Option MessageMeta)
    (reply : Reply Value) (failure : Option Exc) :
    traffic.Grows (traffic.answer home caller info reply failure) := by
  fun_cases Traffic.answer
  case case1 | case2 => exact .refl rfl
  case case3 known name _ _ =>
    unfold sendLocal
    split
    · exact .refl rfl
    · exact grows_credit caller reply
    · exact (grows_credit caller reply).trans (grows_put reply)
  case case4 known name _ _ =>
    unfold sendRemote
    split
    · exact .refl rfl
    · exact (grows_credit caller reply).trans (.refl rfl)

theorem grows_deliver {source target : String} (hnext : traffic.deliver source target = some next) :
    traffic.Grows next := by
  unfold deliver at hnext
  split at hnext
  · cases hnext
  next frame frames _ =>
  simp only at hnext
  split at hnext <;> obtain rfl := Option.some.inj hnext
  · refine .modify rfl fun call _ => ?_
    split
    · exact ⟨rfl, rfl, rfl, fun _ => rfl, fun _ => rfl⟩
    · exact .refl
  · exact .refl rfl

theorem grows_drain {readable : Bool} (hnext : traffic.drain id readable = some next) :
    traffic.Grows next := by
  revert hnext
  fun_cases Traffic.drain <;> rintro ⟨⟩
  refine .modify rfl fun call _ => ?_
  cases readable <;> exact ⟨rfl, rfl, rfl, fun _ => rfl, fun _ => rfl⟩

theorem grows_callback {decodes : Bool} (hnext : traffic.callback id decodes = some next) :
    traffic.Grows next := by
  revert hnext
  fun_cases Traffic.callback <;> rintro ⟨⟩
  refine .modify rfl fun call _ => ?_
  unfold Call.put
  split <;> [split; skip] <;> exact ⟨rfl, rfl, rfl, fun _ => rfl, fun _ => rfl⟩

end Grows

end Traffic

end LapinBeam.Ask
