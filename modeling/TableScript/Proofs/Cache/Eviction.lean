import TableScript.Cache.Basic
import TableScript.Proofs.Dictionary.Distinct

set_option autoImplicit false

namespace TableScript.Cache

variable {η : Type}

theorem usedBefore_iff (a b : CachedHandle η) :
    usedBefore a b = true ↔ a.lastUsed < b.lastUsed ∨ a.lastUsed = b.lastUsed ∧ a.recency < b.recency := by
  simp [usedBefore]

/-- What was not used before a handle was not used before an earlier one either. -/
theorem usedBefore_false_trans {a b c : CachedHandle η} (first : usedBefore a b = false)
    (second : usedBefore b c = false) : usedBefore a c = false := by
  simp only [← Bool.not_eq_true, usedBefore_iff, Time] at *
  omega

theorem usedBefore_asymm {a b : CachedHandle η} (before : usedBefore a b = true) :
    usedBefore b a = false := by
  simp only [← Bool.not_eq_true, usedBefore_iff, Time] at *
  omega

private theorem foldl_oldest (rest : List (String × CachedHandle η)) (first : String × CachedHandle η) :
    let best := rest.foldl (fun best pair => if usedBefore pair.2 best.2 then pair else best) first
    best ∈ first :: rest ∧ ∀ pair ∈ first :: rest, usedBefore pair.2 best.2 = false := by
  induction rest generalizing first with
  | nil => simp [usedBefore]
  | cons next rest ih =>
      simp only [List.foldl_cons]
      split
      · rename_i before
        obtain ⟨member, least⟩ := ih next
        refine ⟨List.mem_cons_of_mem first member, ?_⟩
        intro pair among
        rcases List.mem_cons.mp among with rfl | later
        · exact usedBefore_false_trans (usedBefore_asymm before) (least next List.mem_cons_self)
        · exact least pair later
      · rename_i after
        obtain ⟨member, least⟩ := ih first
        have kept : first :: rest ⊆ first :: next :: rest := by simp
        refine ⟨kept member, ?_⟩
        intro pair among
        rcases List.mem_cons.mp among with rfl | later
        · exact least pair List.mem_cons_self
        · rcases List.mem_cons.mp later with rfl | later
          · exact usedBefore_false_trans (by simpa using after) (least first List.mem_cons_self)
          · exact least pair (List.mem_cons_of_mem first later)

theorem oldest?_spec {entries : List (String × CachedHandle η)} {oldest : String × CachedHandle η}
    (chosen : oldest? entries = some oldest) :
    oldest ∈ entries ∧ ∀ pair ∈ entries, usedBefore pair.2 oldest.2 = false := by
  cases entries with
  | nil => cases chosen
  | cons first rest =>
      cases chosen
      exact foldl_oldest rest first

theorem oldest?_eq_none_iff {entries : List (String × CachedHandle η)} :
    oldest? entries = none ↔ entries = [] := by
  cases entries with
  | nil => simp [oldest?]
  | cons first rest => simp [oldest?]

/-- Where one handle was used before all others, it is the oldest one in any order. -/
theorem oldest?_of_least {entries : List (String × CachedHandle η)} {least : String × CachedHandle η}
    (member : least ∈ entries) (first : ∀ pair ∈ entries, pair ≠ least → usedBefore least.2 pair.2 = true) :
    oldest? entries = some least := by
  cases chosen : oldest? entries with
  | none =>
      rw [oldest?_eq_none_iff.mp chosen] at member
      cases member
  | some oldest =>
      obtain ⟨among, unbeaten⟩ := oldest?_spec chosen
      by_cases same : oldest = least
      · rw [same]
      · have before := first oldest among same
        rw [unbeaten least member] at before
        cases before

section Room

variable {entries : Dictionary (CachedHandle η)}

theorem erase_oldest {key : String} {entry : CachedHandle η} (distinct : entries.keys.Nodup)
    (chosen : oldest? entries.entries = some (key, entry)) :
    entries.entries.Perm ((key, entry) :: (entries.erase key).entries) :=
  Dictionary.perm_of_get? distinct (Dictionary.get?_of_mem distinct (oldest?_spec chosen).1)

theorem evictOldest_sublist (count : Nat) (entries : Dictionary (CachedHandle η)) :
    (evictOldest count entries).2.entries.Sublist entries.entries := by
  induction count generalizing entries with
  | zero => exact List.Sublist.refl _
  | succ count ih =>
      unfold evictOldest
      split
      · exact List.Sublist.refl _
      · exact (ih _).trans List.filter_sublist

theorem evictOldest_handles (count : Nat) (distinct : entries.keys.Nodup) :
    (entries.entries.map (·.2.handle)).Perm
      ((evictOldest count entries).2.entries.map (·.2.handle) ++ (evictOldest count entries).1) := by
  induction count generalizing entries with
  | zero => simp [evictOldest]
  | succ count ih =>
      unfold evictOldest
      split
      · simp
      · rename_i key entry chosen
        have spread := (erase_oldest distinct chosen).map (·.2.handle)
        have rest := ih (Dictionary.nodup_keys_erase key distinct)
        exact (spread.trans (rest.cons entry.handle)).trans List.perm_middle.symm

theorem evictOldest_size (count : Nat) (distinct : entries.keys.Nodup) :
    (evictOldest count entries).2.size = entries.size - count := by
  induction count generalizing entries with
  | zero => rfl
  | succ count ih =>
      unfold evictOldest
      split
      · rename_i chosen
        have empty := oldest?_eq_none_iff.mp chosen
        simp [Dictionary.size, empty]
      · rename_i key entry chosen
        have smaller : entries.size = (entries.erase key).size + 1 := (erase_oldest distinct chosen).length_eq
        have rest := ih (Dictionary.nodup_keys_erase key distinct)
        simp only [rest]
        omega

end Room

end TableScript.Cache
