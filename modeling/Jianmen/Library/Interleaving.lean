import Mathlib.Algebra.BigOperators.Group.Finset.Piecewise
import Mathlib.Algebra.Order.Group.Multiset

/-!
# Interleavings

A list of events, each tagged with the channel it belongs to, is an interleaving of the lists of
events of the single channels.
-/

namespace Jianmen.Interleaving

variable {ι ε ω : Type*} [DecidableEq ι]

/-- The events of one channel. -/
def own (channel : ι) (events : List (ι × ε)) : List ε :=
  (events.filter fun event => event.1 = channel).map Prod.snd

/-- The channels that occur. -/
def channels (events : List (ι × ε)) : Finset ι :=
  (events.map Prod.fst).toFinset

theorem own_concat (channel : ι) (events : List (ι × ε)) (event : ι × ε) :
    own channel (events ++ [event]) =
      own channel events ++ if event.1 = channel then [event.2] else [] := by
  simp only [own]
  by_cases same : event.1 = channel
  · simp [same]
  · simp [same]

theorem channels_concat (events : List (ι × ε)) (event : ι × ε) :
    channels (events ++ [event]) = insert event.1 (channels events) := by
  simp [channels]

theorem own_eq_nil {channel : ι} {events : List (ι × ε)} (absent : channel ∉ channels events) :
    own channel events = [] := by
  have others : ∀ event ∈ events, event.1 ≠ channel := by
    rintro event member rfl
    exact absent (List.mem_toFinset.mpr (List.mem_map_of_mem member))
  simpa [own] using fun channel' event member => others (channel', event) member

/-- One more event adds to the total of all channels what it adds to its own. -/
theorem sum_own_concat (total : List ε → Multiset ω) (empty : total [] = 0)
    (events : List (ι × ε)) (event : ι × ε) {added : Multiset ω}
    (adds : total (own event.1 events ++ [event.2]) = total (own event.1 events) + added) :
    ∑ channel ∈ channels (events ++ [event]), total (own channel (events ++ [event])) =
      ∑ channel ∈ channels events, total (own channel events) + added := by
  have each : ∀ channel, total (own channel (events ++ [event])) =
      total (own channel events) + if channel = event.1 then added else 0 := by
    intro channel
    rw [own_concat]
    by_cases same : event.1 = channel
    · subst same
      rw [if_pos rfl, if_pos rfl, adds]
    · rw [if_neg same, if_neg (Ne.symm same), List.append_nil, add_zero]
  have known : ∑ channel ∈ insert event.1 (channels events), total (own channel events) =
      ∑ channel ∈ channels events, total (own channel events) := by
    refine Finset.sum_insert_of_eq_zero_if_notMem fun absent => ?_
    rw [own_eq_nil absent, empty]
  rw [channels_concat, Finset.sum_congr rfl fun channel _ => each channel,
    Finset.sum_add_distrib, known, Finset.sum_ite_eq', if_pos (Finset.mem_insert_self _ _)]

end Jianmen.Interleaving
