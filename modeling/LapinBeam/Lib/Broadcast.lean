import Mathlib.Data.List.Basic

/-!
# A bounded broadcast channel

Every receiver sees every item sent after it subscribed, unless it falls behind by more than the
capacity: its next receive then reports the lag once and moves it to the oldest item still kept.
The channel is its whole history; a receiver is the position of the next item it will read.
-/

namespace Broadcast

variable {Item : Type*} {cursor next : Nat}

structure Channel (Item : Type*) where
  capacity : Nat
  log : List Item

inductive Received (Item : Type*)
  | pending
  | lagged (next : Nat)
  | item (item : Item) (next : Nat)
deriving DecidableEq

def Channel.send (channel : Channel Item) (item : Item) : Channel Item :=
  { channel with log := channel.log ++ [item] }

def Channel.subscribe (channel : Channel Item) : Nat :=
  channel.log.length

def Channel.lagging (channel : Channel Item) (cursor : Nat) : Bool :=
  channel.capacity < channel.log.length - cursor

def Channel.recv (channel : Channel Item) (cursor : Nat) : Received Item :=
  if channel.lagging cursor then .lagged (channel.log.length - channel.capacity)
  else
    match channel.log[cursor]? with
    | none => .pending
    | some item => .item item (cursor + 1)

def Channel.unread (channel : Channel Item) (cursor : Nat) : List Item :=
  channel.log.drop cursor

@[simp]
theorem Channel.log_send (channel : Channel Item) (item : Item) :
    (channel.send item).log = channel.log ++ [item] := rfl

@[simp]
theorem Channel.unread_subscribe (channel : Channel Item) :
    channel.unread channel.subscribe = [] := by
  simp [unread, subscribe]

theorem Channel.unread_send {channel : Channel Item} (item : Item)
    (hcursor : cursor ≤ channel.log.length) :
    (channel.send item).unread cursor = channel.unread cursor ++ [item] := by
  simp only [unread, log_send]
  exact List.drop_append_of_le_length hcursor

theorem Channel.recv_eq_item {channel : Channel Item} {item : Item}
    (hrecv : channel.recv cursor = .item item next) :
    channel.unread cursor = item :: channel.unread next ∧ next ≤ channel.log.length := by
  simp only [recv] at hrecv
  split at hrecv
  · cases hrecv
  split at hrecv
  · cases hrecv
  rename_i found hfound
  obtain ⟨rfl, rfl⟩ := Received.item.inj hrecv
  obtain ⟨hlt, rfl⟩ := List.getElem?_eq_some_iff.mp hfound
  exact ⟨List.drop_eq_getElem_cons hlt, hlt⟩

theorem Channel.recv_of_unread {channel : Channel Item} {item : Item} {rest : List Item}
    (hkeeps : channel.lagging cursor = false) (hunread : channel.unread cursor = item :: rest) :
    channel.recv cursor = .item item (cursor + 1) := by
  have hget : channel.log[cursor]? = some item := by
    have := congrArg List.head? hunread
    rwa [unread, List.head?_drop, List.head?_cons] at this
  simp [recv, hkeeps, hget]

theorem Channel.unread_subset_of_recv {channel : Channel Item}
    (hrecv : (∃ item, channel.recv cursor = .item item next) ∨
      channel.recv cursor = .lagged next) : channel.unread next ⊆ channel.unread cursor := by
  rcases hrecv with ⟨item, hitem⟩ | hlagged
  · rw [(recv_eq_item hitem).1]
    exact List.subset_cons_self _ _
  · have hlt : cursor ≤ next := by
      simp only [recv] at hlagged
      split at hlagged
      · rename_i hlag
        simp only [lagging, decide_eq_true_eq] at hlag
        cases hlagged
        omega
      · split at hlagged <;> cases hlagged
    exact List.drop_subset_drop_left _ hlt

theorem Channel.recv_eq_lagged {channel : Channel Item}
    (hrecv : channel.recv cursor = .lagged next) :
    channel.lagging cursor = true := by
  simp only [recv] at hrecv
  split at hrecv
  · assumption
  · split at hrecv <;> cases hrecv

end Broadcast
