/-!
# Property names

The properties a control may report form a closed set: the basic properties, and one property for
each control pattern that says whether the pattern is available. A name outside the set is refused,
so a query never compares against a property that cannot exist.
-/

namespace ControlQuery

/-- A property of a control that is not about a pattern. -/
inductive BasicProperty where
  | automationId
  | name
  | className
  | controlType
  | frameworkId
  | helpText
  | localizedControlType
  | processId
  | isEnabled
  | isOffscreen
  | isKeyboardFocusable
  | hasKeyboardFocus
  | value
deriving DecidableEq, Repr

namespace BasicProperty

/-- Every basic property, in declaration order. -/
def all : List BasicProperty :=
  [automationId, name, className, controlType, frameworkId, helpText, localizedControlType,
    processId, isEnabled, isOffscreen, isKeyboardFocusable, hasKeyboardFocus, value]

/-- The name used in queries, snapshots and messages. -/
def text : BasicProperty → String
  | automationId => "AutomationId"
  | name => "Name"
  | className => "ClassName"
  | controlType => "ControlType"
  | frameworkId => "FrameworkId"
  | helpText => "HelpText"
  | localizedControlType => "LocalizedControlType"
  | processId => "ProcessId"
  | isEnabled => "IsEnabled"
  | isOffscreen => "IsOffscreen"
  | isKeyboardFocusable => "IsKeyboardFocusable"
  | hasKeyboardFocus => "HasKeyboardFocus"
  | value => "Value"

theorem mem_all (p : BasicProperty) : p ∈ all := by
  cases p <;> decide

end BasicProperty

/-- A control pattern whose availability a control may report. -/
inductive ControlPattern where
  | invoke
  | value
  | toggle
  | selection
  | selectionItem
  | expandCollapse
  | scroll
  | scrollItem
  | rangeValue
  | text
  | window
  | grid
  | gridItem
  | table
  | tableItem
  | transform
  | dock
  | legacyIAccessible
deriving DecidableEq, Repr

namespace ControlPattern

/-- Every pattern, in declaration order. -/
def all : List ControlPattern :=
  [invoke, value, toggle, selection, selectionItem, expandCollapse, scroll, scrollItem, rangeValue,
    text, window, grid, gridItem, table, tableItem, transform, dock, legacyIAccessible]

/-- The name of the pattern by itself. -/
def name : ControlPattern → String
  | invoke => "Invoke"
  | value => "Value"
  | toggle => "Toggle"
  | selection => "Selection"
  | selectionItem => "SelectionItem"
  | expandCollapse => "ExpandCollapse"
  | scroll => "Scroll"
  | scrollItem => "ScrollItem"
  | rangeValue => "RangeValue"
  | text => "Text"
  | window => "Window"
  | grid => "Grid"
  | gridItem => "GridItem"
  | table => "Table"
  | tableItem => "TableItem"
  | transform => "Transform"
  | dock => "Dock"
  | legacyIAccessible => "LegacyIAccessible"

/-- The name of the property that says whether the pattern is available. -/
def availabilityName (p : ControlPattern) : String :=
  "Is" ++ p.name ++ "PatternAvailable"

theorem mem_all (p : ControlPattern) : p ∈ all := by
  cases p <;> decide

/-- The pattern of a given name. -/
def ofName? (name : String) : Option ControlPattern :=
  all.find? fun p => p.name == name

end ControlPattern

/-- Names one property of a control. -/
inductive PropertyId where
  /-- A basic property such as `Name` or `ControlType`. -/
  | basic (property : BasicProperty)
  /-- Whether the control supports the pattern. -/
  | patternAvailable (pattern : ControlPattern)
deriving DecidableEq, Repr

namespace PropertyId

/-- The `AutomationId` property. -/
abbrev automationId : PropertyId := .basic .automationId
/-- The `Name` property. -/
abbrev name : PropertyId := .basic .name
/-- The `ClassName` property. -/
abbrev className : PropertyId := .basic .className
/-- The `ControlType` property. -/
abbrev controlType : PropertyId := .basic .controlType

/-- Every property: the basic ones, then the availability of each pattern. -/
def all : List PropertyId :=
  BasicProperty.all.map basic ++ ControlPattern.all.map patternAvailable

/-- The name used in queries, snapshots and messages. -/
def text : PropertyId → String
  | basic p => p.text
  | patternAvailable p => p.availabilityName

/-- The property of a given name. -/
def ofName? (name : String) : Option PropertyId :=
  all.find? fun p => p.text == name

/-- The place of a property in `all`, which is its place in the order of properties. -/
def rank (p : PropertyId) : Nat :=
  all.idxOf p

instance : LT PropertyId where
  lt p q := p.rank < q.rank

instance (p q : PropertyId) : Decidable (p < q) :=
  inferInstanceAs (Decidable (p.rank < q.rank))

theorem mem_all (p : PropertyId) : p ∈ all := by
  cases p with
  | basic p => exact List.mem_append_left _ (List.mem_map_of_mem (BasicProperty.mem_all p))
  | patternAvailable p =>
    exact List.mem_append_right _ (List.mem_map_of_mem (ControlPattern.mem_all p))

end PropertyId

/-- The message for a name that is no property. -/
def unknownPropertyMessage (name : String) : String :=
  s!"unknown property `{name}`"

end ControlQuery
