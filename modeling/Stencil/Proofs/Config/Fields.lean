import Mathlib.Data.List.TakeWhile
import Stencil.Config.Yaml

set_option autoImplicit false

namespace Stencil

theorem Text.skipBlank_eq_nil_iff {text : Text} : Text.skipBlank text = [] ↔ Text.AllBlank text :=
  List.dropWhile_eq_nil_iff

namespace Yaml

/-- The text of a scalar, or of the one that an alias stands for. -/
def Node.text? (anchors : Anchors) : Node → Option Text
  | .scalar _ text _ => some text
  | .alias number =>
      match anchors.find? number with
      | some (.scalar _ text _) => some text
      | _ => none
  | _ => none

namespace Reading

variable {α β : Type} {left rest : Nat}

theorem bind_eq_ok_iff {first : Reading α} {next : α → Reading β} {b : β} :
    (first >>= next) left = .ok (b, rest) ↔
      ∃ a between, first left = .ok (a, between) ∧ next a between = .ok (b, rest) := by
  simp only [bind, StateT.bind, Except.bind]
  cases first left with
  | error error => simp
  | ok pair => simp [Prod.ext_iff, and_assoc]

theorem pure_eq_ok_iff {a b : α} :
    (pure a : Reading α) left = .ok (b, rest) ↔ a = b ∧ left = rest := by
  change (Except.ok (a, left) : Except Error (α × Nat)) = .ok (b, rest) ↔ _
  rw [Except.ok.injEq, Prod.mk.injEq]

theorem throw_ne_ok {error : Error} {a : α} : (throw error : Reading α) left ≠ .ok (a, rest) := by
  simp [throw, throwThe, MonadExceptOf.throw, StateT.lift, bind, Except.bind]

theorem guard_eq_ok_iff {refused : Prop} [Decidable refused] {error : Error}
    {next : PUnit → Reading β} {b : β} :
    (if refused then throw error >>= next else next ⟨⟩) left = .ok (b, rest) ↔
      ¬ refused ∧ next ⟨⟩ left = .ok (b, rest) := by
  split
  · rename_i holds
    constructor
    · intro done
      obtain ⟨_, _, thrown, _⟩ := bind_eq_ok_iff.1 done
      exact absurd thrown throw_ne_ok
    · exact fun done => absurd holds done.1
  · simp [*]

/-- An alias leads to its node, and any other node to itself. -/
theorem follow_eq_ok {anchors : Anchors} {node reached : Node}
    (done : follow anchors node left = .ok (reached, rest)) :
    reached = node ∧ (∀ number, node ≠ .alias number) ∨
      ∃ number, node = .alias number ∧ anchors.find? number = some reached := by
  unfold follow at done
  split at done
  · rename_i number
    obtain ⟨limit, _, _, done⟩ := bind_eq_ok_iff.1 done
    obtain ⟨_, done⟩ := guard_eq_ok_iff.1 done
    obtain ⟨_, _, _, done⟩ := bind_eq_ok_iff.1 done
    cases stands : anchors.find? number with
    | none =>
        simp only [stands] at done
        exact absurd done throw_ne_ok
    | some target =>
        simp only [stands] at done
        obtain ⟨rfl, _⟩ := pure_eq_ok_iff.1 done
        exact Or.inr ⟨number, rfl, stands⟩
  · rename_i other
    obtain ⟨rfl, _⟩ := pure_eq_ok_iff.1 done
    exact Or.inl ⟨rfl, other⟩

end Reading

theorem text?_of_scalarText {anchors : Anchors} {node : Node} {text : Text} {left rest : Nat}
    (read : scalarText anchors node left = .ok (text, rest)) : node.text? anchors = some text := by
  obtain ⟨reached, between, followed, read⟩ := Reading.bind_eq_ok_iff.1 read
  split at read
  · rename_i tag other style
    obtain ⟨rfl, _⟩ := Reading.pure_eq_ok_iff.1 read
    rcases Reading.follow_eq_ok followed with ⟨rfl, _⟩ | ⟨number, rfl, stands⟩
    · rfl
    · simp only [Node.text?, stands]
  · exact absurd read Reading.throw_ne_ok

theorem Document.reading_eq_ok {α : Type} {document : Document} {read : Reading α} {a : α}
    (done : document.reading read = .ok a) : ∃ left rest, read left = .ok (a, rest) := by
  unfold reading at done
  cases result : read.run (aliasesPerNode * Document.extent document.root) with
  | error error =>
      rw [result] at done
      cases done
  | ok pair =>
      rw [result] at done
      cases done
      exact ⟨_, pair.2, result⟩

end Yaml

namespace Config

open Yaml (Node Anchors Reading)

/-- Two settings are the same in a field. -/
def Field.Same (first second : Config) : Field → Prop
  | enabled => first.enabled = second.enabled
  | includeRoot => first.includeRoot = second.includeRoot
  | cacheIncludes => first.cacheIncludes = second.cacheIncludes
  | stylesheetExtensions => first.stylesheetExtensions = second.stylesheetExtensions
  | builtinProviders => first.builtinProviders = second.builtinProviders
  | sections => first.sections = second.sections

/-- Settings have in a field what a node spells. -/
def Field.Takes (anchors : Anchors) (node : Node) (config : Config) (field : Field) : Prop :=
  ∃ base changed left rest,
    readField anchors base node field left = .ok (changed, rest) ∧ field.Same changed config

/-- A text gives a field a node. -/
def Gives (text : Text) (field : Field) (anchors : Anchors) (node : Node) : Prop :=
  ¬ Text.AllBlank text ∧ ∃ tag pairs key,
    Yaml.Document.read text = .ok (some ⟨.mapping tag pairs, anchors⟩) ∧ (key, node) ∈ pairs ∧
      key.text? anchors = some field.name.toList

/-- A text sets the include root. -/
def SetsRoot (text root : Text) : Prop :=
  ∃ anchors node, Gives text .includeRoot anchors node ∧ node.text? anchors = some root

def keys (text : Text) : List (Option Text) :=
  match Yaml.Document.read text with
  | .ok (some ⟨.mapping _ pairs, anchors⟩) => pairs.map fun pair => pair.1.text? anchors
  | _ => []

theorem Field.ofName?_eq_some_iff {text : Text} {field : Field} :
    Field.ofName? text = some field ↔ text = field.name.toList := by
  constructor
  · intro found
    unfold ofName? at found
    have same := List.find?_some found
    simpa [eq_comm] using same
  · rintro rfl
    cases field <;> rfl

theorem Field.Same.trans {field : Field} {first second third : Config}
    (one : field.Same first second) (other : field.Same second third) :
    field.Same first third := by
  cases field <;> exact Eq.trans one other

variable {anchors : Anchors} {config changed result : Config} {node : Node} {field other : Field}
  {left rest : Nat}

theorem same_of_readField
    (read : readField anchors config node other left = .ok (changed, rest))
    (apart : field ≠ other) : field.Same config changed := by
  cases other
  all_goals
    obtain ⟨value, between, _, read⟩ := Reading.bind_eq_ok_iff.1 read
    obtain ⟨rfl, _⟩ := Reading.pure_eq_ok_iff.1 read
    cases field <;> first | rfl | exact absurd rfl apart

theorem readFields_cons {seen : List Field} {key : Node} {pairs : List (Node × Node)}
    (done : readFields anchors seen config ((key, node) :: pairs) left = .ok (result, rest)) :
    ∃ text between, key.text? anchors = some text ∧
      ((Field.ofName? text = none ∧
          readFields anchors seen config pairs between = .ok (result, rest)) ∨
        ∃ field changed behind, Field.ofName? text = some field ∧ field ∉ seen ∧
          readField anchors config node field between = .ok (changed, behind) ∧
          readFields anchors (field :: seen) changed pairs behind = .ok (result, rest)) := by
  obtain ⟨text, between, read, done⟩ := Reading.bind_eq_ok_iff.1 done
  refine ⟨text, between, Yaml.text?_of_scalarText read, ?_⟩
  cases known : Field.ofName? text with
  | none =>
      simp only [known] at done
      exact Or.inl ⟨rfl, done⟩
  | some field =>
      simp only [known] at done
      obtain ⟨fresh, done⟩ := Reading.guard_eq_ok_iff.1 done
      obtain ⟨changed, behind, given, done⟩ := Reading.bind_eq_ok_iff.1 done
      exact Or.inr ⟨field, changed, behind, rfl, by simpa using fresh, given, done⟩

/-- What the fields of a mapping come to: a field that no key names is left alone, and one that a
key names has not been met before and takes what its node spells. -/
theorem readFields_eq_ok {seen : List Field} {pairs : List (Node × Node)}
    (done : readFields anchors seen config pairs left = .ok (result, rest)) (field : Field) :
    ((∀ pair ∈ pairs, pair.1.text? anchors ≠ some field.name.toList) → field.Same config result) ∧
      ∀ pair ∈ pairs, pair.1.text? anchors = some field.name.toList →
        field ∉ seen ∧ field.Takes anchors pair.2 result := by
  induction pairs generalizing seen config left with
  | nil =>
      obtain ⟨rfl, _⟩ := Reading.pure_eq_ok_iff.1 done
      exact ⟨fun _ => by cases field <;> rfl, by simp⟩
  | cons pair pairs ih =>
      obtain ⟨key, node⟩ := pair
      simp only [List.forall_mem_cons]
      obtain ⟨text, between, spelt, step⟩ := readFields_cons done
      have meets : key.text? anchors = some field.name.toList ↔
          Field.ofName? text = some field := by
        rw [spelt, Option.some.injEq, Field.ofName?_eq_some_iff]
      rcases step with ⟨unknown, others⟩ | ⟨other, changed, behind, known, fresh, given, others⟩
      · obtain ⟨silent, takes⟩ := ih others
        have unnamed : key.text? anchors ≠ some field.name.toList := by
          simp [meets, unknown]
        exact ⟨fun none => silent none.2, fun also => absurd also unnamed, takes⟩
      · obtain ⟨silent, takes⟩ := ih others
        by_cases same : field = other
        · subst same
          have present : key.text? anchors = some field.name.toList := meets.2 known
          -- The field is met from here on, so that no later key names it.
          have last : field.Same changed result :=
            silent fun pair member also => (takes pair member also).1 List.mem_cons_self
          refine ⟨fun none => absurd present none.1, fun _ => ⟨fresh, ?_⟩, ?_⟩
          · exact ⟨config, changed, between, behind, given, last⟩
          · exact fun pair member also => absurd List.mem_cons_self (takes pair member also).1
        · have kept : field.Same config changed := same_of_readField given same
          have unnamed : key.text? anchors ≠ some field.name.toList := by
            simp [meets, known, Ne.symm same]
          refine ⟨fun none => kept.trans (silent none.2), fun also => absurd also unnamed, ?_⟩
          intro pair member also
          obtain ⟨unmet, taken⟩ := takes pair member also
          exact ⟨fun met => unmet (List.mem_cons_of_mem other met), taken⟩

/-- The settings of a document are those of its fields, or the defaults where its root is left
out. -/
theorem readRoot_eq_ok (done : readRoot anchors node left = .ok (result, rest)) :
    (∃ tag pairs, node = .mapping tag pairs ∧
        readFields anchors [] {} pairs left = .ok (result, rest)) ∨
      (∀ tag pairs, node ≠ .mapping tag pairs) ∧ result = {} := by
  have void (other : (if isVoid node then return {} else throw .wrongType : Reading Config) left =
      .ok (result, rest)) : result = {} := by
    split at other
    · exact (Reading.pure_eq_ok_iff.1 other).1.symm
    · exact absurd other Reading.throw_ne_ok
  cases node with
  | mapping tag pairs => exact Or.inl ⟨tag, pairs, rfl, done⟩
  | _ => exact Or.inr ⟨by simp, void done⟩

theorem default_or_document {text : Text} (parses : ofYaml text = .ok config) :
    (∃ tag pairs anchors left rest, ¬ Text.AllBlank text ∧
        Yaml.Document.read text = .ok (some ⟨.mapping tag pairs, anchors⟩) ∧
        readFields anchors [] {} pairs left = .ok (config, rest)) ∨
      config = {} ∧ ∀ field anchors node, ¬ Gives text field anchors node := by
  unfold ofYaml at parses
  split at parses
  · rename_i blank
    cases parses
    refine Or.inr ⟨rfl, fun field anchors node gives => gives.1 ?_⟩
    exact Text.skipBlank_eq_nil_iff.1 (List.isEmpty_iff.1 blank)
  · rename_i visible
    rw [List.isEmpty_iff, Text.skipBlank_eq_nil_iff] at visible
    split at parses
    · cases parses
    · rename_i none
      cases parses
      refine Or.inr ⟨rfl, ?_⟩
      rintro field anchors node ⟨_, tag, pairs, key, read, _⟩
      cases none.symm.trans read
    · rename_i document read
      obtain ⟨left, rest, done⟩ := Yaml.Document.reading_eq_ok parses
      obtain ⟨root, anchors⟩ := document
      rcases readRoot_eq_ok done with ⟨tag, pairs, rfl, fields⟩ | ⟨other, rfl⟩
      · exact Or.inl ⟨tag, pairs, anchors, left, rest, visible, read, fields⟩
      · refine Or.inr ⟨rfl, ?_⟩
        rintro field _ node ⟨_, tag, pairs, key, also, _⟩
        cases read.symm.trans also
        exact other tag pairs rfl

theorem ofYaml_eq_ok {text : Text} (parses : ofYaml text = .ok config) (field : Field) :
    ((∀ anchors node, ¬ Gives text field anchors node) → field.Same {} config) ∧
      ∀ anchors node, Gives text field anchors node → field.Takes anchors node config := by
  rcases default_or_document parses with
    ⟨tag, pairs, anchors, left, rest, visible, read, fields⟩ | ⟨rfl, silent⟩
  · obtain ⟨silent, takes⟩ := readFields_eq_ok fields field
    constructor
    · intro unnamed
      refine silent fun pair member spelt => unnamed anchors pair.2 ?_
      exact ⟨visible, tag, pairs, pair.1, read, member, spelt⟩
    · rintro others node ⟨_, _, _, key, also, member, spelt⟩
      cases read.symm.trans also
      exact (takes (key, node) member spelt).2
  · refine ⟨fun _ => ?_, fun anchors node gives => absurd gives (silent field anchors node)⟩
    cases field <;> rfl

theorem mem_keys_of_gives {text : Text} (gives : Gives text field anchors node) :
    some field.name.toList ∈ keys text := by
  obtain ⟨_, tag, pairs, key, read, member, spelt⟩ := gives
  simp only [keys, read]
  exact List.mem_map.2 ⟨(key, node), member, spelt⟩

theorem exists_ofYaml {α : Type} {text : Text} {view : Config → α} {a : α}
    (seen : (ofYaml text).toOption.map view = some a) :
    ∃ config, ofYaml text = .ok config ∧ view config = a := by
  cases parses : ofYaml text with
  | error error =>
      rw [parses] at seen
      cases seen
  | ok config =>
      rw [parses] at seen
      exact ⟨config, rfl, Option.some.inj seen⟩

theorem includeRoot_of_takes (takes : Field.Takes anchors node config .includeRoot) :
    node.text? anchors = some config.includeRoot := by
  obtain ⟨base, changed, left, rest, read, same⟩ := takes
  obtain ⟨value, between, spelt, read⟩ := Reading.bind_eq_ok_iff.1 read
  obtain ⟨rfl, _⟩ := Reading.pure_eq_ok_iff.1 read
  have given := Yaml.text?_of_scalarText spelt
  rwa [show value = _ from same] at given

/-- A text that parses sets one include root at most, which its settings have. Without one they have
the default. -/
theorem includeRoot_eq {text : Text} (parses : ofYaml text = .ok config) :
    (∀ root, SetsRoot text root → config.includeRoot = root) ∧
      ((∀ root, ¬ SetsRoot text root) → config.includeRoot = ['.']) := by
  obtain ⟨silent, given⟩ := ofYaml_eq_ok parses .includeRoot
  constructor
  · rintro root ⟨anchors, node, gives, spelt⟩
    have taken := includeRoot_of_takes (given anchors node gives)
    exact Option.some.inj (taken.symm.trans spelt)
  · intro unset
    refine (silent fun anchors node gives => ?_).symm
    exact unset _ ⟨anchors, node, gives, includeRoot_of_takes (given anchors node gives)⟩

end Config

end Stencil
