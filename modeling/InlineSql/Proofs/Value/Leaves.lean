import InlineSql.Literal

namespace InlineSql.Value

def isList : Value → Bool
  | .list _ => true
  | _ => false

def isRaw : Value → Bool
  | .raw _ => true
  | _ => false

mutual
def leaves (test : Value → Bool) : Value → Bool
  | .list items => allLeaves test items
  | v => test v
def allLeaves (test : Value → Bool) : List Value → Bool
  | [] => true
  | v :: rest => leaves test v && allLeaves test rest
end

mutual
def masked : Value → Value
  | .text _ => .text ""
  | .list items => .list (maskedAll items)
  | v => v
def maskedAll : List Value → List Value
  | [] => []
  | v :: rest => masked v :: maskedAll rest
end

-- Induction on the nesting of lists; a value that is no list is a leaf.
theorem nesting {motive : Value → Prop} (leaf : ∀ v, v.isList = false → motive v)
    (list : ∀ items, (∀ v ∈ items, motive v) → motive (.list items)) (v : Value) : motive v := by
  have first_rest : ∀ v rest, motive v → (∀ w ∈ rest, motive w) → ∀ w ∈ v :: rest, motive w := by
    intro v rest first later w member
    rcases List.mem_cons.mp member with rfl | old
    · exact first
    · exact later w old
  exact @Value.rec motive (fun items => ∀ v ∈ items, motive v) (leaf _ rfl) (fun _ => leaf _ rfl)
    (fun _ => leaf _ rfl) (fun _ => leaf _ rfl) (fun _ => leaf _ rfl) (fun _ => leaf _ rfl)
    (fun _ => leaf _ rfl) list (fun _ => leaf _ rfl) (fun _ member => by cases member) first_rest v

theorem leaves_list (test : Value → Bool) (items : List Value) :
    (Value.list items).leaves test = items.all (leaves test) := by
  rw [leaves]
  induction items with
  | nil => simp [allLeaves]
  | cons v rest ih => simp [allLeaves,ih]

theorem leaves_leaf (test : Value → Bool) {v : Value} (leaf : v.isList = false) :
    v.leaves test = test v := by
  cases v with
  | list items => cases leaf
  | _ => rw [leaves]; simp

theorem leaves_weaken {test other : Value → Bool} (weaker : ∀ v, test v = true → other v = true)
    {v : Value} (all : v.leaves test = true) : v.leaves other = true := by
  induction v using nesting with
  | leaf v leaf =>
    rw [leaves_leaf _ leaf] at all ⊢
    exact weaker v all
  | list items ih =>
    rw [leaves_list,List.all_eq_true] at all ⊢
    exact fun v member => ih v member (all v member)

theorem masked_list (items : List Value) : (Value.list items).masked = .list (items.map masked) := by
  rw [masked]
  congr 1
  induction items with
  | nil => simp [maskedAll]
  | cons v rest ih => simp [maskedAll,ih]

theorem masked_leaf {a b : Value} (leaf : a.isList = false) (same : a.masked = b.masked) :
    (∃ s t, a = .text s ∧ b = .text t) ∨ a = b := by
  cases a with
  | list items => cases leaf
  | text s => cases b with
    | text t => exact .inl ⟨s,t,rfl,rfl⟩
    | _ => simp [masked] at same
  | _ => cases b <;> simp_all [masked]

theorem masked_items {items : List Value} {b : Value} (same : (Value.list items).masked = b.masked) :
    ∃ others, b = .list others ∧ List.map masked items = others.map masked := by
  cases b with
  | list others => exact ⟨others,rfl,by simpa [masked_list] using same⟩
  | _ => simp [masked] at same

end InlineSql.Value
