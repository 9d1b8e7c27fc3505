/-!
# ShaderInclude.Assoc

Ordered mappings as lists of pairs. A key that is put again keeps its place and takes the new value;
a new key goes to the end. Pairs whose keys differ are the mapping that they leave (`ofPairs_of_nodup`).
-/

namespace ShaderInclude
namespace Assoc

variable {κ α : Type} [BEq κ]

def put (pairs : List (κ × α)) (key : κ) (value : α) : List (κ × α) :=
  if pairs.any (·.1 == key) then pairs.map fun p => if p.1 == key then (p.1, value) else p
  else pairs ++ [(key, value)]

/-- The mapping that a sequence of puts leaves. -/
def ofPairs (pairs : List (κ × α)) : List (κ × α) :=
  pairs.foldl (fun acc p => put acc p.1 p.2) []

variable [LawfulBEq κ]

theorem put_of_not_mem {pairs : List (κ × α)} {key : κ} (h : key ∉ pairs.map Prod.fst) (value : α) :
    put pairs key value = pairs ++ [(key, value)] := by
  have hany : pairs.any (·.1 == key) = false := by
    rw [List.any_eq_false]
    intro p hp heq
    exact h (List.mem_map.2 ⟨p, hp, eq_of_beq heq⟩)
  simp [put, hany]

theorem foldl_put {pairs acc : List (κ × α)} (h : ((acc ++ pairs).map Prod.fst).Nodup) :
    pairs.foldl (fun acc p => put acc p.1 p.2) acc = acc ++ pairs := by
  induction pairs generalizing acc with
  | nil => simp
  | cons p pairs ih =>
    have hnew : p.1 ∉ acc.map Prod.fst := by
      intro hmem
      rw [List.map_append, List.nodup_append] at h
      exact h.2.2 p.1 hmem p.1 (by simp) rfl
    rw [List.foldl_cons, put_of_not_mem hnew, ih (by simpa using h), List.append_assoc]
    rfl

theorem ofPairs_of_nodup {pairs : List (κ × α)} (h : (pairs.map Prod.fst).Nodup) :
    ofPairs pairs = pairs :=
  foldl_put (by simpa using h)

theorem lookup_append_of_not_mem {pairs : List (κ × α)} {key : κ} (h : key ∉ pairs.map Prod.fst)
    (value : α) : (pairs ++ [(key, value)]).lookup key = some value := by
  have hnone : pairs.lookup key = none := by
    rw [List.lookup_eq_none_iff]
    intro p hp
    rw [bne_iff_ne]
    rintro rfl
    exact h (List.mem_map.2 ⟨p, hp, rfl⟩)
  rw [List.lookup_append, hnone]
  simp

theorem lookup_replace {pairs : List (κ × α)} {key : κ} (h : key ∈ pairs.map Prod.fst) (value : α) :
    (pairs.map fun p => if p.1 == key then (p.1, value) else p).lookup key = some value := by
  induction pairs with
  | nil => cases h
  | cons p pairs ih =>
    by_cases hp : p.1 = key
    · simp [hp]
    · have hrest : key ∈ pairs.map Prod.fst := by
        rcases List.mem_cons.1 h with heq | hrest
        · exact absurd heq.symm hp
        · exact hrest
      have hskip : (key == p.1) = false := beq_eq_false_iff_ne.2 (Ne.symm hp)
      rw [List.map_cons, if_neg (by simpa using hp), List.lookup_cons, hskip]
      exact ih hrest

theorem lookup_put_self (pairs : List (κ × α)) (key : κ) (value : α) :
    (put pairs key value).lookup key = some value := by
  by_cases hmem : key ∈ pairs.map Prod.fst
  · obtain ⟨p, hp, hkey⟩ := List.mem_map.1 hmem
    have hany : pairs.any (·.1 == key) = true := List.any_eq_true.2 ⟨p, hp, beq_iff_eq.2 hkey⟩
    rw [put, if_pos hany]
    exact lookup_replace hmem value
  · rw [put_of_not_mem hmem]
    exact lookup_append_of_not_mem hmem value

end Assoc
end ShaderInclude
