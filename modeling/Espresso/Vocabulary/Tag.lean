/-!
# Tags

The fixed words of the profile language. A tag names one member of a small family: how a channel
reaches its target, what drives the pump, what ends a step early, what is brewed.
-/

namespace Espresso

/-- A family whose members are written as words, no two alike. A family may have further spellings
of a member, its aliases, and may take its words in any case. -/
class Tagged (α : Type) where
  all : List α
  tag : α → String
  aliases : List (String × α) := []
  ignoresCase : Bool := false
  mem_all : ∀ member, member ∈ all
  tags_nodup : (all.map tag).Nodup

namespace Tagged

theorem eq_of_pairwise_tag_ne {α β : Type} {f : α → β} {members : List α}
    (hpairs : members.Pairwise fun a b => f a ≠ f b) {first second : α}
    (hfirst : first ∈ members) (hsecond : second ∈ members) (h : f first = f second) :
    first = second := by
  induction hpairs with
  | nil => cases hfirst
  | cons hhead _ ih =>
    cases hfirst with
    | head =>
      cases hsecond with
      | head => rfl
      | tail _ hsecond => exact absurd h (hhead _ hsecond)
    | tail _ hfirst =>
      cases hsecond with
      | head => exact absurd h.symm (hhead _ hfirst)
      | tail _ hsecond => exact ih hfirst hsecond

variable {α : Type} [Tagged α]

def tags (α : Type) [Tagged α] : List String :=
  (all : List α).map tag

def spellings (α : Type) [Tagged α] : List (String × α) :=
  (all : List α).map (fun member => (tag member, member)) ++ aliases

def ofTag? (word : String) : Option α :=
  (all : List α).find? fun member => tag member == word

theorem tag_injective {first second : α} (h : tag first = tag second) : first = second := by
  have hpairs := List.pairwise_map.mp (tags_nodup : (all.map (tag : α → String)).Nodup)
  exact eq_of_pairwise_tag_ne hpairs (mem_all first) (mem_all second) h

theorem ofTag?_tag (member : α) : ofTag? (tag member) = some member := by
  cases h : (ofTag? (tag member) : Option α) with
  | none =>
    have hnone := List.find?_eq_none.mp h member (mem_all member)
    simp at hnone
  | some found =>
    have hfound := List.find?_some h
    simp only [beq_iff_eq] at hfound
    rw [tag_injective hfound]

theorem tag_of_ofTag?_eq_some {word : String} {member : α} (h : ofTag? word = some member) :
    tag member = word := by
  simpa using List.find?_some h

end Tagged

/-- How a channel reaches its target within a step. -/
inductive Transition where
  | fast
  | smooth
  deriving DecidableEq, Repr

/-- The temperature a step regulates. -/
inductive Sensor where
  | coffee
  | water
  deriving DecidableEq, Repr

/-- The channel the pump drives during a step. -/
inductive Pump where
  | flow
  | pressure
  deriving DecidableEq, Repr

/-- What ends a step before its time. -/
inductive Exit where
  | pressureUnder
  | pressureOver
  | flowUnder
  | flowOver
  deriving DecidableEq, Repr

inductive Beverage where
  | calibrate
  | cleaning
  | espresso
  | filter
  | manual
  | pourover
  | teaPortafilter
  deriving DecidableEq, Repr

/-- The family of machine settings a profile is written for. -/
inductive ProfileType where
  | settings1
  | settings2
  | settings2a
  | settings2b
  | settings2c
  | settings2c2
  deriving DecidableEq, Repr

def Transition.tag : Transition → String
  | fast => "fast"
  | smooth => "smooth"

def Sensor.tag : Sensor → String
  | coffee => "coffee"
  | water => "water"

def Pump.tag : Pump → String
  | flow => "flow"
  | pressure => "pressure"

def Exit.tag : Exit → String
  | pressureUnder => "pressure_under"
  | pressureOver => "pressure_over"
  | flowUnder => "flow_under"
  | flowOver => "flow_over"

def Beverage.tag : Beverage → String
  | calibrate => "calibrate"
  | cleaning => "cleaning"
  | espresso => "espresso"
  | filter => "filter"
  | manual => "manual"
  | pourover => "pourover"
  | teaPortafilter => "tea_portafilter"

def ProfileType.tag : ProfileType → String
  | settings1 => "settings_1"
  | settings2 => "settings_2"
  | settings2a => "settings_2a"
  | settings2b => "settings_2b"
  | settings2c => "settings_2c"
  | settings2c2 => "settings_2c2"

/-- Profiles of this type hold a list of steps. -/
def ProfileType.advanced : ProfileType :=
  settings2c

instance : Tagged Transition where
  all := [.fast, .smooth]
  tag := Transition.tag
  mem_all member := by cases member <;> decide
  tags_nodup := by decide

instance : Tagged Sensor where
  all := [.coffee, .water]
  tag := Sensor.tag
  mem_all member := by cases member <;> decide
  tags_nodup := by decide

instance : Tagged Pump where
  all := [.flow, .pressure]
  tag := Pump.tag
  mem_all member := by cases member <;> decide
  tags_nodup := by decide

instance : Tagged Exit where
  all := [.pressureUnder, .pressureOver, .flowUnder, .flowOver]
  tag := Exit.tag
  mem_all member := by cases member <;> decide
  tags_nodup := by decide

/-- Beverages are read in any case, and plain tea is brewed in the portafilter. -/
instance : Tagged Beverage where
  all := [.calibrate, .cleaning, .espresso, .filter, .manual, .pourover, .teaPortafilter]
  tag := Beverage.tag
  aliases := [("tea", .teaPortafilter)]
  ignoresCase := true
  mem_all member := by cases member <;> decide
  tags_nodup := by decide

instance : Tagged ProfileType where
  all := [.settings1, .settings2, .settings2a, .settings2b, .settings2c, .settings2c2]
  tag := ProfileType.tag
  mem_all member := by cases member <;> decide
  tags_nodup := by decide

end Espresso
