import Mathlib.Data.List.Basic

/-!
# Parallel lanes

Several queues, the lanes, feed one sink, and nothing orders a lane's head against another's. While
at most one of them holds anything they are one queue: `flatten` is its content, taking from a lane
takes its head, and adding to a lane whose others are empty adds at its end.
-/

namespace Lanes

variable {Item : Type*} {lanes : List (List Item)} {lane : List Item} {item : Item} {index : Nat}

def Alone (index : Nat) (lanes : List (List Item)) : Prop :=
  ∀ position other, position ≠ index → lanes[position]? = some other → other = []

def Single (lanes : List (List Item)) : Prop :=
  ∀ index lane, lanes[index]? = some lane → lane ≠ [] → Alone index lanes

theorem flatten_of_alone : ∀ {lanes : List (List Item)} {index : Nat},
    lanes[index]? = some lane → Alone index lanes → lanes.flatten = lane
  | [], _, hlane, _ => by cases hlane
  | first :: rest, 0, hlane, halone => by
      obtain rfl : first = lane := Option.some.inj hlane
      have hrest : rest.flatten = [] := by
        refine List.flatten_eq_nil_iff.mpr fun other hmem => ?_
        obtain ⟨position, hposition⟩ := List.mem_iff_getElem?.mp hmem
        exact halone (position + 1) other (Nat.succ_ne_zero _) hposition
      rw [List.flatten_cons, hrest, List.append_nil]
  | first :: rest, index + 1, hlane, halone => by
      obtain rfl : first = [] := halone 0 first (Nat.succ_ne_zero _).symm rfl
      have hlane' : rest[index]? = some lane := hlane
      rw [List.flatten_cons, List.nil_append]
      refine flatten_of_alone hlane' fun position other hne hposition => ?_
      exact halone (position + 1) other (by omega) hposition

theorem Alone.set (halone : Alone index lanes) (lane : List Item) :
    Alone index (lanes.set index lane) := by
  intro position other hne hother
  rw [List.getElem?_set_ne hne.symm] at hother
  exact halone position other hne hother

theorem Alone.single (halone : Alone index lanes) : Single lanes := by
  intro position lane hlane hne other content hother hcontent
  by_cases hposition : position = index
  · subst hposition
    exact halone other content hother hcontent
  · exact absurd (halone position lane hposition hlane) hne

theorem Single.pop (hsingle : Single lanes) (hlane : lanes[index]? = some (item :: lane)) :
    lanes.flatten = item :: (lanes.set index lane).flatten ∧ Single (lanes.set index lane) := by
  have halone := hsingle index _ hlane (List.cons_ne_nil _ _)
  have hlt : index < lanes.length := (List.getElem?_eq_some_iff.mp hlane).1
  refine ⟨?_, (halone.set lane).single⟩
  rw [flatten_of_alone hlane halone,
    flatten_of_alone (List.getElem?_set_self hlt) (halone.set lane)]

theorem Alone.push (halone : Alone index lanes) (hlane : lanes[index]? = some lane) :
    (lanes.set index (lane ++ [item])).flatten = lanes.flatten ++ [item] ∧
      Single (lanes.set index (lane ++ [item])) := by
  have hlt : index < lanes.length := (List.getElem?_eq_some_iff.mp hlane).1
  refine ⟨?_, (halone.set _).single⟩
  rw [flatten_of_alone hlane halone,
    flatten_of_alone (List.getElem?_set_self hlt) (halone.set _)]

theorem single_append_nil (hsingle : Single lanes) : Single (lanes ++ [[]]) := by
  have hold : ∀ {position : Nat} {content : List Item},
      (lanes ++ [[]])[position]? = some content → content ≠ [] →
        lanes[position]? = some content := by
    intro position content hposition hne
    rcases Nat.lt_or_ge position lanes.length with hlt | hge
    · rwa [List.getElem?_append_left hlt] at hposition
    · rw [List.getElem?_append_right hge] at hposition
      exact absurd (List.mem_singleton.mp (List.mem_of_getElem? hposition)) hne
  intro index lane hlane hne position other hposition hother
  by_contra hcontent
  exact hcontent (hsingle index lane (hold hlane hne) hne position other hposition
    (hold hother hcontent))

end Lanes
