/-!
# Bindings

What names stand for. A name has at most one binding; binding it again replaces the old one.
-/

namespace IndicatorScript

structure Bindings (β : Type) where
  entries : List (String × β) := []
  deriving Repr

namespace Bindings

variable {β : Type}

def get? (bindings : Bindings β) (name : String) : Option β := bindings.entries.lookup name

def contains (bindings : Bindings β) (name : String) : Bool := (bindings.get? name).isSome

def erase (bindings : Bindings β) (name : String) : Bindings β :=
  ⟨bindings.entries.filter (·.1 ≠ name)⟩

def insert (bindings : Bindings β) (name : String) (value : β) : Bindings β :=
  ⟨(name, value) :: (bindings.erase name).entries⟩

/-- Of several pairs with one name the last one counts. -/
def ofList (pairs : List (String × β)) : Bindings β :=
  pairs.foldl (fun bindings (name, value) => bindings.insert name value) {}

@[simp] theorem get?_erase_self (bindings : Bindings β) (name : String) : (bindings.erase name).get? name = none := by
  simp only [get?, erase, List.lookup_eq_none_iff, List.mem_filter]
  intro entry ⟨_, other⟩
  simpa [bne, BEq.comm (a := name)] using other

theorem get?_erase_of_ne (bindings : Bindings β) {name other : String} (h : other ≠ name) :
    (bindings.erase name).get? other = bindings.get? other := by
  obtain ⟨entries⟩ := bindings
  simp only [get?, erase]
  induction entries with
  | nil => rfl
  | cons entry rest ih =>
    obtain ⟨key, value⟩ := entry
    by_cases same : key = name
    · have differs : (other == key) = false := by simp [same, h]
      rw [List.filter_cons_of_neg (by simp [same]), List.lookup_cons, differs, ih]
    · rw [List.filter_cons_of_pos (by simp [same]), List.lookup_cons, List.lookup_cons, ih]

@[simp] theorem get?_insert_self (bindings : Bindings β) (name : String) (value : β) :
    (bindings.insert name value).get? name = some value := by
  simp [get?, insert]

theorem get?_insert_of_ne (bindings : Bindings β) {name other : String} (value : β) (h : other ≠ name) :
    (bindings.insert name value).get? other = bindings.get? other := by
  rw [← get?_erase_of_ne bindings h]
  have : (other == name) = false := by simp [h]
  simp [get?, insert, List.lookup_cons, this]

end Bindings

end IndicatorScript
