import Stencil.Proofs.Config.Fields
import Stencil.Proofs.Files.Parent
import Stencil.Proofs.Invocation.Run

set_option autoImplicit false

namespace Stencil

namespace Path

theorem isAbsolute_iff {path : Text} : isAbsolute path = true ↔ ['/'] <+: path := by
  cases path <;> simp [isAbsolute, eq_comm]

theorem join_of_absolute (directory : Text) {path : Text} (absolute : ['/'] <+: path) :
    join directory path = path := by
  simp [join, isAbsolute_iff.2 absolute]

end Path

theorem Config.relativeTo_eq (config : Config) (path : Text) :
    config.relativeTo path =
      { config with
        includeRoot := Path.join ((Path.parent? path).getD []) config.includeRoot } := by
  unfold relativeTo
  split
  · rename_i absolute
    rw [Path.join_of_absolute _ (Path.isAbsolute_iff.1 absolute)]
  · split
    · rename_i directory parent
      rw [parent]
      rfl
    · rename_i none
      simp [none, Path.join]

namespace Invocation

/-- The settings that a command line starts from: those of the configuration file, which has to hold
some, or the defaults. -/
inductive Configured (invocation : Invocation) (files : Files) : Config → Prop where
  | given {path text : Text} {config : Config} (named : invocation.config = some path)
      (holds : files.Holds path text) (parses : Config.ofYaml text = .ok config) :
      Configured invocation files config
  | default (unnamed : invocation.config = none) : Configured invocation files {}

/-- The configuration file gives a field a node. -/
def Gives (invocation : Invocation) (files : Files) (path : Text) (field : Config.Field)
    (anchors : Yaml.Anchors) (node : Yaml.Node) : Prop :=
  invocation.config = some path ∧
    ∃ text, files.Holds path text ∧ Config.Gives text field anchors node

/-- The configuration file sets an include root. -/
def Sets (invocation : Invocation) (files : Files) (path root : Text) : Prop :=
  invocation.config = some path ∧ ∃ text, files.Holds path text ∧ Config.SetsRoot text root

/-- The include root of a command line: that of the option, that of the configuration file, which is
read against the directory of the file unless it is absolute, or the directory of the template. -/
inductive Roots (invocation : Invocation) (files : Files) : Text → Prop where
  | option {root : Text} (asked : invocation.includeRoot = some root) :
      Roots invocation files root
  | absolute {path root : Text} (unasked : invocation.includeRoot = none)
      (sets : invocation.Sets files path root) (absolute : ['/'] <+: root) :
      Roots invocation files root
  | relative {path root directory : Text} (unasked : invocation.includeRoot = none)
      (sets : invocation.Sets files path root) (relative : ¬ ['/'] <+: root)
      (parent : Path.Parent path directory) : Roots invocation files (Path.join directory root)
  | template {directory : Text} (unasked : invocation.includeRoot = none)
      (unset : ∀ path root, ¬ invocation.Sets files path root)
      (lies : Path.LiesIn invocation.template directory) : Roots invocation files directory

/-- The include root is left to a configuration file that sets none. -/
structure Silent (invocation : Invocation) (files : Files) (path : Text) : Prop where
  unasked : invocation.includeRoot = none
  named : invocation.config = some path
  unset : ∀ root, ¬ invocation.Sets files path root

/-- How a command line comes from the settings that it starts from to those of its engine. -/
structure Resolves (invocation : Invocation) (files : Files) (configured resolved : Config) :
    Prop where
  root : (∀ path, ¬ invocation.Silent files path) →
    ∀ root, invocation.Roots files root ↔ root = resolved.includeRoot
  silent : ∀ path, invocation.Silent files path → ∃ directory there,
    Path.Parent path directory ∧ Path.LiesIn path there ∧
      resolved.includeRoot = Path.join directory ['.'] ∧
      Path.components resolved.includeRoot = Path.components there
  caching : resolved.cacheIncludes = (configured.cacheIncludes && !invocation.noCache)
  kept : ∀ field : Config.Field, field ≠ .includeRoot → field ≠ .cacheIncludes →
    field.Same configured resolved
  given : ∀ path field anchors node, invocation.Gives files path field anchors node →
    field.Takes anchors node configured
  default : ∀ field : Config.Field,
    (∀ path anchors node, ¬ invocation.Gives files path field anchors node) →
    field.Same {} configured

variable {invocation : Invocation} {files : Files} {configured : Config}

def baseRoot (invocation : Invocation) (configured : Config) : Text :=
  match invocation.config with
  | none => Path.directory invocation.template
  | some path => Path.join ((Path.parent? path).getD []) configured.includeRoot

theorem resolveConfig_of_configured (read : Configured invocation files configured) :
    invocation.resolveConfig files = .ok
      { configured with
        includeRoot := invocation.includeRoot.getD (invocation.baseRoot configured)
        cacheIncludes := configured.cacheIncludes && !invocation.noCache } := by
  rcases read with ⟨named, holds, parses⟩ | unnamed
  · rename_i path text
    rw [resolveConfig_eq_ok_iff.2 (.given named holds parses)]
    simp only [override, Config.relativeTo_eq, baseRoot, named]
  · rw [resolveConfig_eq_ok_iff.2 (.default unnamed)]
    simp only [override, baseRoot, unnamed]

/-- What the configuration file gives is what the settings are read from. -/
theorem Configured.parses_of_named (read : Configured invocation files configured)
    {path text : Text} (named : invocation.config = some path) (holds : files.Holds path text) :
    Config.ofYaml text = .ok configured := by
  rcases read with ⟨also, held, parses⟩ | unnamed
  · cases named.symm.trans also
    rwa [holds.unique held]
  · cases named.symm.trans unnamed

theorem Configured.includeRoot_of_sets (read : Configured invocation files configured)
    {path root : Text} (sets : invocation.Sets files path root) :
    configured.includeRoot = root := by
  obtain ⟨named, text, holds, sets⟩ := sets
  exact (Config.includeRoot_eq (read.parses_of_named named holds)).1 root sets

theorem Configured.includeRoot_of_silent (read : Configured invocation files configured)
    {path : Text} (silent : invocation.Silent files path) : configured.includeRoot = ['.'] := by
  have named := silent.named
  rcases read with ⟨also, holds, parses⟩ | unnamed
  · cases named.symm.trans also
    refine (Config.includeRoot_eq parses).2 fun root sets => silent.unset root ?_
    exact ⟨named, _, holds, sets⟩
  · rfl

theorem baseRoot_of_sets (read : Configured invocation files configured) {path root : Text}
    (sets : invocation.Sets files path root) :
    invocation.baseRoot configured = Path.join ((Path.parent? path).getD []) root := by
  simp only [baseRoot, sets.1, read.includeRoot_of_sets sets]

theorem roots_iff (read : Configured invocation files configured)
    (loud : ∀ path, ¬ invocation.Silent files path) (root : Text) :
    invocation.Roots files root ↔
      root = invocation.includeRoot.getD (invocation.baseRoot configured) := by
  constructor
  · rintro (asked | ⟨unasked, sets, absolute⟩ | ⟨unasked, sets, relative, parent⟩ |
      ⟨unasked, unset, lies⟩)
    · rw [asked]
      rfl
    · rw [unasked, Option.getD_none, baseRoot_of_sets read sets, Path.join_of_absolute _ absolute]
    · rw [unasked, Option.getD_none, baseRoot_of_sets read sets, Path.parent_iff.1 parent]
    · cases named : invocation.config with
      | some path => exact absurd ⟨unasked, named, unset path⟩ (loud path)
      | none => simp only [unasked, Option.getD_none, baseRoot, named, Path.liesIn_iff.1 lies]
  · rintro rfl
    cases asked : invocation.includeRoot with
    | some root => exact .option asked
    | none =>
        cases named : invocation.config with
        | none =>
            simp only [Option.getD_none, baseRoot, named]
            refine .template asked ?_ (Path.liesIn_iff.2 rfl)
            rintro path root ⟨also, _⟩
            cases named.symm.trans also
        | some path =>
            obtain ⟨root, sets⟩ : ∃ root, invocation.Sets files path root :=
              Classical.not_forall_not.1 fun unset => loud path ⟨asked, named, unset⟩
            rw [Option.getD_none, baseRoot_of_sets read sets]
            by_cases absolute : ['/'] <+: root
            · rw [Path.join_of_absolute _ absolute]
              exact .absolute asked sets absolute
            · exact .relative asked sets absolute (Path.parent_getD path)

theorem Configured.takes (read : Configured invocation files configured) {path : Text}
    {field : Config.Field} {anchors : Yaml.Anchors} {node : Yaml.Node}
    (gives : invocation.Gives files path field anchors node) :
    field.Takes anchors node configured := by
  obtain ⟨named, text, holds, gives⟩ := gives
  exact (Config.ofYaml_eq_ok (read.parses_of_named named holds) field).2 anchors node gives

theorem Configured.same_of_unnamed (read : Configured invocation files configured)
    {field : Config.Field}
    (unnamed : ∀ path anchors node, ¬ invocation.Gives files path field anchors node) :
    field.Same {} configured := by
  rcases read with ⟨named, holds, parses⟩ | _
  · refine (Config.ofYaml_eq_ok parses field).1 fun anchors node gives => ?_
    exact unnamed _ anchors node ⟨named, _, holds, gives⟩
  · cases field <;> rfl

/-- A command line whose configuration file parses has settings. Their include root follows the
order of precedence unless it is left to a file that sets none: then it is the directory of that
file. The other fields are those of the file or the defaults, with the cache switched off by its
option. -/
theorem resolveConfig_resolves (read : Configured invocation files configured) :
    ∃ resolved, invocation.resolveConfig files = .ok resolved ∧
      invocation.Resolves files configured resolved := by
  refine ⟨_, resolveConfig_of_configured read, roots_iff read, ?_, rfl, ?_,
    fun _ _ _ _ => read.takes, fun _ => read.same_of_unnamed⟩
  · intro path silent
    have lies : Path.LiesIn path (Path.directory path) := Path.liesIn_iff.2 rfl
    refine ⟨_, _, Path.parent_getD path, lies, ?_, ?_⟩
    · simp only [silent.unasked, Option.getD_none, baseRoot, silent.named,
        read.includeRoot_of_silent silent]
    · simp only [silent.unasked, Option.getD_none, baseRoot, silent.named,
        read.includeRoot_of_silent silent]
      exact Path.components_join_parent (Path.parent_getD path) lies
  · intro field other apart
    cases field <;> first | rfl | exact absurd rfl other | exact absurd rfl apart

/-- A relative root, read against the directory of a file that lies elsewhere than the template. -/
theorem resolveConfig_resolves_relative :
    let line : Invocation :=
      { template := "t/page.html".toList, config := some "c/conf.yaml".toList, noCache := true }
    let files := Files.ofReadings
      [("c/conf.yaml".toList, .ok (Utf8.encode "include_root: parts\n".toList))]
    ∃ resolved, line.resolveConfig files = .ok resolved ∧
      resolved.includeRoot = "c/parts".toList ∧ resolved.cacheIncludes = false := by
  intro line files
  obtain ⟨configured, parses, own⟩ : ∃ configured,
      Config.ofYaml "include_root: parts\n".toList = .ok configured ∧
        configured.includeRoot = "parts".toList :=
    Config.exists_ofYaml (by decide +kernel)
  have read : Configured line files configured := .given rfl rfl parses
  have loud (path : Text) : ¬ line.Silent files path := by
    intro silent
    rw [read.includeRoot_of_silent silent] at own
    exact absurd own (by decide)
  obtain ⟨root, sets⟩ : ∃ root, line.Sets files "c/conf.yaml".toList root :=
    Classical.not_forall_not.1 fun unset => loud _ ⟨rfl, rfl, unset⟩
  rw [(read.includeRoot_of_sets sets).symm.trans own] at sets
  have parent : Path.Parent "c/conf.yaml".toList ['c'] := Path.parent_iff.2 (by decide)
  have roots : line.Roots files (Path.join ['c'] "parts".toList) :=
    .relative rfl sets (by decide) parent
  obtain ⟨resolved, done, resolves⟩ := resolveConfig_resolves read
  refine ⟨resolved, done, ((resolves.root loud _).1 roots).symm.trans (by decide), ?_⟩
  rw [resolves.caching]
  exact Bool.and_false _

/-- A file without a root of its own is not read against the directory of the template. -/
theorem not_roots_of_silent :
    let line : Invocation :=
      { template := "t/page.html".toList, config := some "c/conf.yaml".toList }
    let files := Files.ofReadings
      [("c/conf.yaml".toList, .ok (Utf8.encode "cache_includes: false\n".toList))]
    ∃ configured resolved, Configured line files configured ∧
      line.resolveConfig files = .ok resolved ∧ resolved.includeRoot = "c/.".toList ∧
      line.Roots files ['t'] ∧ ∀ root, line.Roots files root →
        Path.components root ≠ Path.components resolved.includeRoot := by
  intro line files
  obtain ⟨configured, parses, _⟩ : ∃ configured,
      Config.ofYaml "cache_includes: false\n".toList = .ok configured ∧
        configured.cacheIncludes = false :=
    Config.exists_ofYaml (by decide +kernel)
  have read : Configured line files configured := .given rfl rfl parses
  have unset (path root : Text) : ¬ line.Sets files path root := by
    rintro ⟨named, text, holds, anchors, node, gives, _⟩
    cases named
    have key := Config.mem_keys_of_gives gives
    rw [show text = "cache_includes: false\n".toList from holds.unique rfl] at key
    exact absurd key (by decide +kernel)
  obtain ⟨resolved, done, resolves⟩ := resolveConfig_resolves read
  have silent : line.Silent files "c/conf.yaml".toList := ⟨rfl, rfl, unset _⟩
  obtain ⟨directory, there, parent, _, same, _⟩ := resolves.silent _ silent
  have reached : resolved.includeRoot = "c/.".toList := by
    rw [same, Path.parent_iff.1 parent]
    decide
  refine ⟨configured, resolved, read, done, reached, ?_, ?_⟩
  · exact .template rfl unset (Path.liesIn_iff.2 (by decide))
  · rintro root (asked | ⟨_, sets, _⟩ | ⟨_, sets, _, _⟩ | ⟨_, _, lies⟩)
    · cases asked
    · exact absurd sets (unset _ _)
    · exact absurd sets (unset _ _)
    · rw [Path.liesIn_iff.1 lies, reached]
      decide

end Invocation

end Stencil
