import Mathlib.Data.List.Nodup
import ReportCompiler.Metrics.Basic

/-!
By how much one sample grows: the sum of what the events add to it, in whatever order they come and however
many other samples they touch.
-/

namespace ReportCompiler

namespace Metrics

namespace Growth

theorem of_nil (sample : Sample) : of [] sample = 0 := rfl

theorem of_cons (entry : Sample × Int) (growth : Growth) (sample : Sample) :
    of (entry :: growth) sample = (if entry.1 = sample then entry.2 else 0) + growth.of sample := by
  by_cases same : entry.1 = sample
  · simp [of, same]
  · simp [of, same]

theorem of_append (first second : Growth) (sample : Sample) :
    of (first ++ second) sample = first.of sample + second.of sample := by
  induction first with
  | nil => rw [List.nil_append, of_nil, Int.zero_add]
  | cons entry rest ih => rw [List.cons_append, of_cons, of_cons, ih, Int.add_assoc]

/-! ### One amount for each sample -/

/-- What `add` does to the entries of a sample that has grown before. -/
def raise (sample : Sample) (amount : Int) (entry : Sample × Int) : Sample × Int :=
  if entry.1 == sample then (sample, entry.2 + amount) else entry

theorem fst_raise (sample : Sample) (amount : Int) (entry : Sample × Int) :
    (raise sample amount entry).1 = entry.1 := by
  unfold raise
  split
  · next same => exact (beq_iff_eq.mp same).symm
  · rfl

theorem map_fst_raise (growth : Growth) (sample : Sample) (amount : Int) :
    (growth.map (raise sample amount)).map Prod.fst = growth.map Prod.fst := by
  rw [List.map_map]
  exact List.map_congr_left fun entry _ => fst_raise sample amount entry

theorem add_of_mem (growth : Growth) (sample : Sample) (amount : Int)
    (present : sample ∈ growth.map Prod.fst) :
    add growth sample amount = growth.map (raise sample amount) := by
  obtain ⟨entry, member, rfl⟩ := List.mem_map.mp present
  apply if_pos
  exact List.any_eq_true.mpr ⟨entry, member, beq_self_eq_true entry.1⟩

theorem add_of_absent (growth : Growth) (sample : Sample) (amount : Int)
    (absent : sample ∉ growth.map Prod.fst) : add growth sample amount = growth ++ [(sample, amount)] := by
  refine if_neg fun present => ?_
  obtain ⟨entry, member, same⟩ := List.any_eq_true.mp present
  exact absent (List.mem_map.mpr ⟨entry, member, beq_iff_eq.mp same⟩)

theorem nodup_add (growth : Growth) (sample : Sample) (amount : Int)
    (distinct : (growth.map Prod.fst).Nodup) : ((add growth sample amount).map Prod.fst).Nodup := by
  by_cases present : sample ∈ growth.map Prod.fst
  · rw [add_of_mem growth sample amount present, map_fst_raise]
    exact distinct
  · rw [add_of_absent growth sample amount present, List.map_append]
    apply List.Nodup.append distinct (List.nodup_singleton sample)
    intro other member single
    exact present (List.mem_singleton.mp single ▸ member)

theorem raise_of_ne (sample : Sample) (amount : Int) (entry : Sample × Int)
    (other : entry.1 ≠ sample) : raise sample amount entry = entry :=
  if_neg fun same => other (beq_iff_eq.mp same)

theorem map_raise_of_absent (growth : Growth) (sample : Sample) (amount : Int)
    (absent : sample ∉ growth.map Prod.fst) : growth.map (raise sample amount) = growth := by
  have kept : ∀ entry ∈ growth, raise sample amount entry = id entry := by
    intro entry member
    apply raise_of_ne
    intro same
    exact absent (List.mem_map.mpr ⟨entry, member, same⟩)
  rw [List.map_congr_left kept, List.map_id]

-- A sample has one entry only, so it is raised once: the induction ends where that entry is found.
theorem of_map_raise (growth : Growth) (sample other : Sample) (amount : Int)
    (distinct : (growth.map Prod.fst).Nodup) (present : sample ∈ growth.map Prod.fst) :
    of (growth.map (raise sample amount)) other =
      growth.of other + if sample = other then amount else 0 := by
  induction growth with
  | nil => cases present
  | cons entry rest ih =>
      obtain ⟨fresh, apart⟩ := List.nodup_cons.mp distinct
      rw [List.map_cons, of_cons, of_cons, fst_raise]
      by_cases here : entry.1 = sample
      · subst here
        rw [map_raise_of_absent rest entry.1 amount fresh]
        by_cases asked : entry.1 = other
        · simp only [raise, asked, beq_self_eq_true, if_true]
          omega
        · simp only [asked, if_false, Int.add_zero]
      · have later : sample ∈ rest.map Prod.fst := by
          rcases List.mem_cons.mp present with same | member
          · exact absurd same.symm here
          · exact member
        rw [raise_of_ne sample amount entry here, ih apart later, Int.add_assoc]

theorem of_add (growth : Growth) (sample other : Sample) (amount : Int)
    (distinct : (growth.map Prod.fst).Nodup) :
    (add growth sample amount).of other = growth.of other + if sample = other then amount else 0 := by
  by_cases present : sample ∈ growth.map Prod.fst
  · rw [add_of_mem growth sample amount present]
    exact of_map_raise growth sample other amount distinct present
  · rw [add_of_absent growth sample amount present, of_append, of_cons, of_nil, Int.add_zero]

theorem of_foldl_add (parts growth : Growth) (sample : Sample) (distinct : (growth.map Prod.fst).Nodup) :
    of (parts.foldl (fun growth part => add growth part.1 part.2) growth) sample =
      growth.of sample + parts.of sample := by
  induction parts generalizing growth with
  | nil => rw [List.foldl_nil, of_nil, Int.add_zero]
  | cons part rest ih =>
      rw [List.foldl_cons, ih _ (nodup_add growth part.1 part.2 distinct), of_add growth _ _ _ distinct,
        of_cons, Int.add_assoc]

theorem of_filter_ne_zero (growth : Growth) (sample : Sample) :
    of (growth.filter fun entry => entry.2 != 0) sample = growth.of sample := by
  induction growth with
  | nil => rfl
  | cons entry rest ih =>
      by_cases still : entry.2 = 0
      · rw [List.filter_cons_of_neg (by simp [still]), ih, of_cons, still, ite_self, Int.zero_add]
      · rw [List.filter_cons_of_pos (by simp [still]), of_cons, of_cons, ih]

theorem of_total (parts : Growth) (sample : Sample) : (total parts).of sample = parts.of sample := by
  rw [total, of_filter_ne_zero, of_foldl_add parts [] sample List.nodup_nil, of_nil, Int.zero_add]

end Growth

/-! ### Event by event -/

theorem of_growth_cons (event : Event) (rest : List Event) (sample : Sample) :
    (growth (event :: rest)).of sample = event.growth.of sample + (growth rest).of sample := by
  rw [growth, growth, Growth.of_total, Growth.of_total, List.flatMap_cons, Growth.of_append]

end Metrics

end ReportCompiler
