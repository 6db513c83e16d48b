import PulseAnalyzer.Proofs.Simulator.Links

set_option autoImplicit false

namespace PulseAnalyzer

namespace Table

variable {κ α : Type} [DecidableEq κ]

def keys (table : Table κ α) : List κ := table.map Prod.fst

theorem keys_erase (key : κ) (table : Table κ α) : keys (erase key table) = (keys table).filter fun k => k ≠ key := by
  rw [keys, keys, erase, List.filter_map]
  rfl

theorem key_present (key : κ) (value : α) (table : Table κ α) (found : lookup key table = some value) : key ∈ keys table := by
  induction table with
  | nil => cases found
  | cons entry rest ih =>
      rcases entry with ⟨k, other⟩
      rw [lookup] at found
      split at found
      · rename_i same
        subst same
        exact List.mem_cons_self
      · exact List.mem_cons_of_mem k (ih found)

theorem key_erased (key : κ) (table : Table κ α) : key ∉ keys (erase key table) := by
  rw [keys_erase]
  intro member
  exact (of_decide_eq_true (List.mem_filter.mp member).2) rfl

theorem keys_erase_nodup (key : κ) (table : Table κ α) (distinct : (keys table).Nodup) : (keys (erase key table)).Nodup := by
  rw [keys_erase]
  exact distinct.filter _

theorem keys_put_nodup (key : κ) (value : α) (table : Table κ α) (distinct : (keys table).Nodup) :
    (keys (put key value table)).Nodup :=
  List.nodup_cons.mpr ⟨key_erased key table, keys_erase_nodup key table distinct⟩

theorem length_put (key : κ) (value : α) (table : Table κ α) (absent : lookup key table = none) :
    (put key value table).length = table.length + 1 := by
  rw [put, erase_absent key table absent, List.length_cons]

theorem length_erase (key : κ) (value : α) (table : Table κ α) (distinct : (keys table).Nodup)
    (found : lookup key table = some value) : (erase key table).length + 1 = table.length := by
  have present := key_present key value table found
  have erased : keys (erase key table) = (keys table).erase key := by
    rw [keys_erase, distinct.erase_eq_filter]
    exact List.filter_congr fun k _ => Bool.eq_iff_iff.mpr (by simp)
  have counted : (erase key table).length = (keys (erase key table)).length := (List.length_map _).symm
  have whole : table.length = (keys table).length := (List.length_map _).symm
  have nonempty : 0 < (keys table).length := List.length_pos_of_mem present
  rw [counted, erased, List.length_erase_of_mem present, whole]
  omega

end Table

namespace SimulatedLink

structure Accounted (l : SimulatedLink) : Prop where
  distinct : (Table.keys l.handles).Nodup
  counted : l.acquired = l.released + l.handles.length
  next : l.nextHandle = l.acquired + 1
  owned : ∀ n, Table.lookup n l.handles = none → Table.lookup n l.pending = none

theorem release_cases (l : SimulatedLink) (handle : Handle) :
    (Table.lookup handle.number l.handles = none ∧ l.answer (.release handle) = (.error (.status badHandle), l)) ∨
    ∃ device, Table.lookup handle.number l.handles = some device ∧
      l.answer (.release handle) = ((l.injection.check "close").1.mapError .status, l.handedBack handle.number) := by
  change _ ∧ l.release handle = _ ∨ ∃ device, _ ∧ l.release handle = _
  cases held : Table.lookup handle.number l.handles with
  | none => exact .inl ⟨rfl, by rw [release, held]⟩
  | some device =>
      refine .inr ⟨device, rfl, ?_⟩
      rw [release, held]
      rfl

theorem handed_back_accounted (l : SimulatedLink) (n device : Nat) (held : Table.lookup n l.handles = some device)
    (account : l.Accounted) : (l.handedBack n).Accounted := by
  have fewer := Table.length_erase n device l.handles account.distinct held
  refine ⟨Table.keys_erase_nodup n _ account.distinct, ?_, account.next, ?_⟩
  · have counted : l.acquired = l.released + 1 + (Table.erase n l.handles).length := by
      have before := account.counted
      omega
    exact counted
  · intro other unheld
    have erased : Table.lookup other (Table.erase n l.handles) = none := unheld
    have cleared : Table.lookup other (Table.erase n l.pending) = none := by
      rw [Table.lookup_erase] at erased ⊢
      split
      · rfl
      · rename_i differs
        rw [if_neg differs] at erased
        exact account.owned other erased
    exact cleared

theorem effect_accounted (l m : SimulatedLink) (call : Link.Call) (answer : call.Answer) (effect : l.Effect call answer m)
    (kept : ∀ handle, call ≠ .release handle) (numbered : l.Numbered) (account : l.Accounted) : m.Accounted := by
  cases effect with
  | refused | rejected => exact ⟨account.distinct, account.counted, account.next, account.owned⟩
  | unheld handle | released handle => exact absurd rfl (kept handle)
  | acquired device =>
      have fresh := numbered l.nextHandle (Nat.le_refl _)
      have more : (Table.put l.nextHandle device l.handles).length = l.handles.length + 1 :=
        Table.length_put _ device _ fresh.1
      refine ⟨Table.keys_put_nodup _ device _ account.distinct, ?_, congrArg (· + 1) account.next, fun n unheld => ?_⟩
      · have counted : l.acquired + 1 = l.released + (Table.put l.nextHandle device l.handles).length := by
          rw [more, account.counted, Nat.add_assoc]
        exact counted
      · rw [handedOut, Table.lookup_put] at unheld
        split at unheld
        · cases unheld
        · exact account.owned n unheld
  | served handle address data device opcode arguments held =>
      refine ⟨account.distinct, account.counted, account.next, fun n unheld => ?_⟩
      have other : n ≠ handle.number := by
        rintro rfl
        cases held.symm.trans unheld
      rw [serve, Table.lookup_put, if_neg other]
      exact account.owned n unheld
  | fetched handle =>
      exact ⟨account.distinct, account.counted, account.next,
        fun n unheld => erased_unused _ n _ (account.owned n unheld)⟩

theorem answer_accounted (l : SimulatedLink) (call : Link.Call) (numbered : l.Numbered) (account : l.Accounted) :
    (l.answer call).2.Accounted := by
  cases call with
  | release handle =>
      rcases l.release_cases handle with ⟨-, same⟩ | ⟨device, held, same⟩
      · rw [same]
        exact account
      · rw [same]
        exact l.handed_back_accounted handle.number device held account
  | acquire | write | read => exact effect_accounted l _ _ _ (l.answer_effect _) nofun numbered account

theorem reached_accounted (l : SimulatedLink) (reached : l.Reached) : l.Accounted := by
  induction reached with
  | make devices => exact ⟨List.nodup_nil, rfl, rfl, fun _ _ => rfl⟩
  | registers l device r _ ih | injection l i _ ih | corruption l index _ ih =>
      exact ⟨ih.distinct, ih.counted, ih.next, ih.owned⟩
  | asked l call before ih => exact l.answer_accounted call (reached_numbered l before) ih

end SimulatedLink
end PulseAnalyzer
