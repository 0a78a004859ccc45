import Mathlib.Data.List.Basic

/-! Options that are processed from the left until one of them ends the program. What an
option does does not depend on the options before it, and each setting has the value that
the last option for it gives. -/

set_option autoImplicit false

namespace OptionFold

variable {Item Settings Stop : Type}

def process (apply : Settings → Item → Except Stop Settings) :
    Settings → List Item → Except Stop Settings
  | settings, [] => .ok settings
  | settings, item :: items =>
      match apply settings item with
      | .error stop => .error stop
      | .ok settings => process apply settings items

/-- Every option either updates the settings or ends the program in its own way, whatever
the settings are. -/
def Independent (apply : Settings → Item → Except Stop Settings)
    (updates : Item → (Settings → Settings) → Prop) (stops : Item → Stop → Prop) : Prop :=
  ∀ item, (∃ update, updates item update ∧ (∀ stop, ¬ stops item stop) ∧
      ∀ settings, apply settings item = .ok (update settings)) ∨
    ∃ stop, stops item stop ∧ (∀ stop', stops item stop' → stop' = stop) ∧
      ∀ settings, apply settings item = .error stop

/-- What the options make of the settings one after the other. -/
inductive Updated (updates : Item → (Settings → Settings) → Prop) :
    List Item → Settings → Settings → Prop where
  | nil (settings : Settings) : Updated updates [] settings settings
  | cons {item : Item} {update : Settings → Settings} {items : List Item}
      {settings settings' : Settings} : updates item update →
      Updated updates items (update settings) settings' →
      Updated updates (item :: items) settings settings'

section Process

variable {apply : Settings → Item → Except Stop Settings}
  {updates : Item → (Settings → Settings) → Prop} {stops : Item → Stop → Prop}

/-- When no option ends the program, all of them update the settings. -/
theorem process_of_forall (independent : Independent apply updates stops) {items : List Item}
    (none : ∀ item ∈ items, ∀ stop, ¬ stops item stop) (settings : Settings) :
    ∃ settings', process apply settings items = .ok settings' ∧
      Updated updates items settings settings' := by
  induction items generalizing settings with
  | nil => exact ⟨settings, rfl, .nil settings⟩
  | cons item items ih =>
      rcases independent item with ⟨update, does, _, applies⟩ | ⟨stop, ends, _, _⟩
      · obtain ⟨settings', ran, updated⟩ :=
          ih (fun other member => none other (.tail _ member)) (update settings)
        exact ⟨settings', by rw [process, applies]; exact ran, .cons does updated⟩
      · exact absurd ends (none item (.head _) stop)

/-- Otherwise the first one that ends the program decides how. -/
theorem process_of_exists (independent : Independent apply updates stops)
    {front back : List Item} {item : Item} {stop : Stop}
    (none : ∀ other ∈ front, ∀ stop, ¬ stops other stop) (ends : stops item stop)
    (settings : Settings) : process apply settings (front ++ item :: back) = .error stop := by
  induction front generalizing settings with
  | nil =>
      rcases independent item with ⟨_, _, never, _⟩ | ⟨stop', _, unique, applies⟩
      · exact absurd ends (never stop)
      · rw [List.nil_append, process, applies, unique stop ends]
  | cons other front ih =>
      rcases independent other with ⟨update, _, _, applies⟩ | ⟨stop', ends', _, _⟩
      · rw [List.cons_append, process, applies]
        exact ih (fun another member => none another (.tail _ member)) (update settings)
      · exact absurd ends' (none other (.head _) stop')

/-- The first option that ends the program, and how it does. -/
def FirstStop (stops : Item → Stop → Prop) (items : List Item) (stop : Stop) : Prop :=
  ∃ front item back, items = front ++ item :: back ∧
    (∀ other ∈ front, ∀ stop, ¬ stops other stop) ∧ stops item stop

theorem none_or_first (stops : Item → Stop → Prop) (items : List Item) :
    (∀ item ∈ items, ∀ stop, ¬ stops item stop) ∨ ∃ stop, FirstStop stops items stop := by
  induction items with
  | nil => exact .inl (by simp)
  | cons item items ih =>
      by_cases ends : ∃ stop, stops item stop
      · obtain ⟨stop, ends⟩ := ends
        exact .inr ⟨stop, [], item, items, rfl, by simp, ends⟩
      have never := not_exists.mp ends
      rcases ih with none | ⟨stop, front, other, back, rfl, none, ends⟩
      · exact .inl (List.forall_mem_cons.mpr ⟨never, none⟩)
      · exact .inr ⟨stop, item :: front, other, back, rfl,
          List.forall_mem_cons.mpr ⟨never, none⟩, ends⟩

theorem FirstStop.process (independent : Independent apply updates stops) {items : List Item}
    {stop : Stop} (first : FirstStop stops items stop) (settings : Settings) :
    process apply settings items = .error stop := by
  obtain ⟨front, item, back, rfl, none, ends⟩ := first
  exact process_of_exists independent none ends settings

/-! ## Settings -/

/-- What the last option for a setting says about its value. -/
def GivenBy {Value Source : Type} (gives : Source → Value → Prop) (initial : Value) :
    Option Source → Value → Prop
  | none, value => value = initial
  | some source, value => gives source value

/-- A setting is given by the last option that sets it, or it is what it was. -/
theorem Updated.last {Value Source : Type} (field : Settings → Value)
    (sets : Item → Option Source) (gives : Source → Value → Prop)
    (assigns : ∀ item update, updates item update → ∀ settings,
      GivenBy gives (field settings) (sets item) (field (update settings)))
    {items : List Item} {settings settings' : Settings}
    (updated : Updated updates items settings settings') :
    GivenBy gives (field settings) (items.filterMap sets).getLast? (field settings') := by
  induction updated with
  | nil => exact rfl
  | @cons item update items settings settings' does _ ih =>
      have first := assigns item update does settings
      cases set : sets item with
      | none =>
          rw [set] at first
          rw [List.filterMap_cons_none set, ← show field (update settings) = field settings
            from first]
          exact ih
      | some source =>
          rw [set] at first
          rw [List.filterMap_cons_some set, List.getLast?_cons]
          cases last : (items.filterMap sets).getLast? with
          | none =>
              rw [last] at ih
              rw [show field settings' = field (update settings) from ih]
              exact first
          | some source' =>
              rw [last] at ih
              exact ih

theorem Updated.flag_iff (flag : Settings → Prop) (raises : Item → Prop)
    (assigns : ∀ item update, updates item update → ∀ settings,
      flag (update settings) ↔ flag settings ∨ raises item)
    {items : List Item} {settings settings' : Settings}
    (updated : Updated updates items settings settings') (lowered : ¬ flag settings) :
    flag settings' ↔ ∃ item ∈ items, raises item := by
  have raised : flag settings' ↔ flag settings ∨ ∃ item ∈ items, raises item := by
    clear lowered
    induction updated with
    | nil => simp
    | cons does _ ih => rw [ih, assigns _ _ does, List.exists_mem_cons_iff, or_assoc]
  rw [raised, or_iff_right lowered]

end Process

end OptionFold
