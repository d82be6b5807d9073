import Stencil.Proofs.Files.Name
import Stencil.Proofs.Include.Confinement
import Stencil.Proofs.Scan.Locality
import Stencil.Proofs.Text.Utf8
import Stencil.Proofs.Warnings.Causes

set_option autoImplicit false

namespace Stencil

namespace Include

/-- What the bytes of a file are included as: their characters, with U+FFFD for each bad stretch. A
style sheet stands in its element, with one line end behind it if it has none of its own. -/
inductive Shows (config : Config) (file : Text) (bytes : List UInt8) : Text → Prop where
  | plain {text : Text} (decodes : Utf8.Replaces bytes text) (plain : ¬ config.Wraps file) :
      Shows config file bytes text
  | ended {sheet : Text} (decodes : Utf8.Replaces bytes (sheet ++ ['\n']))
      (wraps : config.Wraps file) :
      Shows config file bytes ("<style>\n".toList ++ (sheet ++ '\n' :: "</style>".toList))
  | unended {sheet : Text} (decodes : Utf8.Replaces bytes sheet) (wraps : config.Wraps file)
      (unended : ∀ front, sheet ≠ front ++ ['\n']) :
      Shows config file bytes ("<style>\n".toList ++ (sheet ++ '\n' :: "</style>".toList))

/-- A path is relative, does not step up, and leads from the include root to a file. -/
def Names (config : Config) (files : Files) (path file : Text) : Prop :=
  ¬ ['/'] <+: path ∧ ¬ Path.HasSegment path ['.', '.'] ∧
    file = Path.join config.includeRoot path ∧ files.isFile file = true

/-- The cache behind a directive: asked, if bodies are taken from it, and given the body that was
loaded. -/
def handOn (config : Config) (cache : Cache) (written : Text) (loaded : Option Text) : Cache :=
  if config.cacheIncludes then
    match loaded with
    | none => (cache.ask written).2
    | some body => (cache.ask written).2.store written body
  else cache

/-- What a directive becomes, and the cache that it leaves. A body that the cache holds is taken.
Else the file is shown if it can be read, and if not the directive stays. -/
inductive Becomes (config : Config) (files : Files) (cache : Cache) (written path : Text) :
    Text → Cache → Prop where
  | held {body : Text} (holds : Holds config cache written body) :
      Becomes config files cache written path body (handOn config cache written none)
  | loaded {file body : Text} {bytes : List UInt8}
      (missed : ∀ body, ¬ Holds config cache written body)
      (named : Names config files path file) (read : files.read file = .ok bytes)
      (shows : Shows config file bytes body) :
      Becomes config files cache written path body (handOn config cache written (some body))
  | stays (missed : ∀ body, ¬ Holds config cache written body)
      (unread : ∀ file bytes, Names config files path file → files.read file ≠ .ok bytes) :
      Becomes config files cache written path written (handOn config cache written none)

variable {config : Config} {files : Files} {cache : Cache} {path written : Text}

theorem wrapStyle_ended (sheet : Text) :
    wrapStyle (sheet ++ ['\n']) = "<style>\n".toList ++ (sheet ++ '\n' :: "</style>".toList) := by
  have last : (sheet ++ ['\n']).getLast? = some '\n' := List.getLast?_concat
  unfold wrapStyle
  generalize "<style>\n".toList = opening, "</style>".toList = closing
  simp [last]

theorem wrapStyle_unended {sheet : Text} (unended : ∀ front, sheet ≠ front ++ ['\n']) :
    wrapStyle sheet = "<style>\n".toList ++ (sheet ++ '\n' :: "</style>".toList) := by
  have other : ¬ sheet.getLast? = some '\n' := by
    rintro last
    obtain ⟨front, split⟩ := List.getLast?_eq_some_iff.1 last
    exact unended front split
  unfold wrapStyle
  generalize "<style>\n".toList = opening, "</style>".toList = closing
  simp [other]

theorem shows_iff {file body : Text} {bytes : List UInt8} :
    Shows config file bytes body ↔ body = bodyOf config file bytes := by
  simp only [bodyOf]
  constructor
  · rintro (⟨decodes, plain⟩ | ⟨decodes, wraps⟩ | ⟨decodes, wraps, unended⟩)
    · rw [← Config.isStylesheet_iff] at plain
      rw [if_neg plain, Utf8.replaces_iff.1 decodes]
    · rw [if_pos (Config.isStylesheet_iff.2 wraps), ← Utf8.replaces_iff.1 decodes, wrapStyle_ended]
    · rw [if_pos (Config.isStylesheet_iff.2 wraps), ← Utf8.replaces_iff.1 decodes,
        wrapStyle_unended unended]
  · rintro rfl
    have decodes : Utf8.Replaces bytes (Utf8.lossyText bytes) := Utf8.replaces_iff.2 rfl
    split
    · rename_i wraps
      rw [Config.isStylesheet_iff] at wraps
      by_cases ended : ∃ sheet, Utf8.lossyText bytes = sheet ++ ['\n']
      · obtain ⟨sheet, split⟩ := ended
        rw [split, wrapStyle_ended]
        exact .ended (split ▸ decodes) wraps
      · rw [wrapStyle_unended (not_exists.1 ended)]
        exact .unended decodes wraps (not_exists.1 ended)
    · rename_i plain
      rw [Config.isStylesheet_iff] at plain
      exact .plain decodes plain

theorem load_eq_ok_iff {body : Text} :
    load config files path = .ok body ↔
      ∃ file bytes, Names config files path file ∧ files.read file = .ok bytes ∧
        Shows config file bytes body := by
  have located {file : Text} : Names config files path file ↔
      locate config path = some file ∧ files.isFile file = true := by
    rw [Names, locate_eq_some_iff, and_assoc, and_assoc]
  simp only [located, shows_iff]
  constructor
  · intro loaded
    unfold load at loaded
    split at loaded
    · cases loaded
    · rename_i file named
      split at loaded
      · rename_i there
        split at loaded <;> cases loaded
        rename_i bytes read
        exact ⟨file, bytes, ⟨named, there⟩, read, rfl⟩
      · cases loaded
  · rintro ⟨file, bytes, ⟨named, there⟩, read, rfl⟩
    simp only [load, named, there, ↓reduceIte, read]

theorem replace_of_holds {body : Text} (holds : Holds config cache written body) :
    replace config files cache written path = (.silent body, handOn config cache written none) := by
  obtain ⟨caching, held⟩ := holds
  simp only [replace, handOn, caching, ↓reduceIte, Cache.ask, held]

theorem replace_of_missed (missed : ∀ body, ¬ Holds config cache written body) :
    replace config files cache written path =
      (emit written (load config files path),
        handOn config cache written (load config files path).toOption) := by
  cases caching : config.cacheIncludes with
  | false => simp [replace, handOn, caching]
  | true =>
      have absent : cache.bodies.get? written = none :=
        Option.eq_none_iff_forall_ne_some.2 fun body held => missed body ⟨caching, held⟩
      simp only [replace, handOn, caching, ↓reduceIte, Cache.ask, absent]
      cases load config files path <;> rfl

theorem Becomes.eq_replace {body : Text} {left : Cache}
    (becomes : Becomes config files cache written path body left) :
    body = (replace config files cache written path).1.text ∧
      left = (replace config files cache written path).2 := by
  cases becomes with
  | held holds =>
      rw [replace_of_holds holds]
      exact ⟨rfl, rfl⟩
  | loaded missed named read shows =>
      rw [replace_of_missed missed, load_eq_ok_iff.2 ⟨_, _, named, read, shows⟩]
      exact ⟨rfl, rfl⟩
  | stays missed unread =>
      rw [replace_of_missed missed]
      cases loaded : load config files path with
      | ok body =>
          obtain ⟨file, bytes, named, read, _⟩ := load_eq_ok_iff.1 loaded
          exact absurd read (unread file bytes named)
      | error event => exact ⟨rfl, rfl⟩

theorem exists_becomes (config : Config) (files : Files) (cache : Cache) (written path : Text) :
    ∃ body left, Becomes config files cache written path body left := by
  by_cases holds : ∃ body, Holds config cache written body
  · obtain ⟨body, holds⟩ := holds
    exact ⟨body, _, .held holds⟩
  · have missed := not_exists.1 holds
    by_cases there : ∃ file bytes, Names config files path file ∧ files.read file = .ok bytes
    · obtain ⟨file, bytes, named, read⟩ := there
      exact ⟨_, _, .loaded missed named read (shows_iff.2 rfl)⟩
    · exact ⟨_, _, .stays missed fun file bytes named read => there ⟨file, bytes, named, read⟩⟩

theorem braced : Spelling.Braced Spells := by
  rintro path written ⟨run, rfl⟩
  have plain := run.not_mem (c := '{') (by decide)
  exact ⟨'i', "nclude:".toList ++ path ++ closer, by simp [opener], by decide,
    by simp [closer, plain]⟩

/-- The scan goes through the two sides of a directive apart. -/
theorem inline_around_written (spelled : Spells path written) (config : Config) (files : Files)
    (cache : Cache) (front behind : Text) :
    inline config files cache (front ++ written ++ behind) =
      let ahead := inline config files cache front
      let here := replace config files ahead.2 written path
      let after := inline config files here.2 behind
      (ahead.1 ++ (here.1 ++ after.1), after.2) := by
  have read : directive.read (written ++ behind) = some (path, behind) :=
    readDirective_append behind spelled
  have cut : directive.cut (front ++ (written ++ behind)) =
      (directive.cut front).append (.next [] written path (directive.cut behind)) := by
    rw [← Grammar.cut_of_read read]
    obtain ⟨c, more, rfl, _, _⟩ := braced path written spelled
    exact Grammar.cut_append (reads_directive.stopsBefore_brace braced (by decide) _) front
  rw [List.append_assoc]
  simp only [inline_eq, cut, Cut.rewriteWith_append, Cut.rewriteWith]
  rfl

/-- Includes are local and their bodies are not looked into. Between any two texts a directive
becomes what it does with the cache that the first text leaves, the second text goes on with the
cache that the directive leaves, and a file that is well-formed and no style sheet is included as it
is. -/
theorem inline_local (spelled : Spells path written) (config : Config) (files : Files)
    (cache : Cache) (front behind : Text) :
    let ahead := inline config files cache front
    let whole := inline config files cache (front ++ written ++ behind)
    (∃ body left, Becomes config files ahead.2 written path body left) ∧
    (∀ body left, Becomes config files ahead.2 written path body left →
      let after := inline config files left behind
      whole.1.text = ahead.1.text ++ body ++ after.1.text ∧ whole.2 = after.2) ∧
    ∀ file text body, ¬ config.Wraps file →
      (Shows config file (Utf8.encode text) body ↔ body = text) := by
  refine ⟨exists_becomes _ _ _ _ _, ?_, ?_⟩
  · intro body left becomes
    obtain ⟨rfl, rfl⟩ := becomes.eq_replace
    rw [inline_around_written spelled]
    simp only [Emission.append_text, List.append_assoc, and_self]
  · intro file text body plain
    rw [← Config.isStylesheet_iff, Bool.not_eq_true] at plain
    rw [shows_iff, bodyOf, plain, Utf8.lossyText_encode]
    rfl

/-- Between an unfinished directive with a style sheet behind it and an unfinished one, a file that
includes itself and is not well-formed. -/
theorem inline_local_itself :
    let itself := "{{include:page}}".toList
    let front := opener ++ "{{include:a.CSS}}".toList
    let behind := closer ++ opener ++ "page".toList
    let files := Files.ofReadings [("./page".toList, .ok (Utf8.encode itself ++ [0xFF])),
      ("./a.CSS".toList, .ok (Utf8.encode "b".toList))]
    (inline default files .empty (front ++ itself ++ behind)).1.text =
      opener ++ "<style>\nb\n</style>".toList ++ (itself ++ ['\uFFFD']) ++ behind := by
  intro itself front behind files
  have spelled : Spells "page".toList itself := ⟨by decide, rfl⟩
  let body := itself ++ ['\uFFFD']
  let ahead := inline default files .empty front
  have missed (body : Text) : ¬ Holds default ahead.2 itself body := by
    rintro ⟨_, held⟩
    have absent : ahead.2.bodies.get? itself = none := by decide +kernel
    cases absent.symm.trans held
  have named : Names default files "page".toList "./page".toList :=
    ⟨by decide, by rw [← Path.mem_segments_iff (by decide)]; decide, rfl, by decide +kernel⟩
  have shows : Shows default "./page".toList (Utf8.encode itself ++ [0xFF]) body :=
    shows_iff.2 (by decide +kernel)
  have apart := ((inline_local spelled default files .empty front behind).2.1 body _
    (.loaded missed named rfl shows)).1
  have first : ahead.1.text = opener ++ "<style>\nb\n</style>".toList := by decide +kernel
  have last (cache : Cache) : (inline default files cache behind).1.text = behind := by
    have gap : directive.cut behind = .last behind :=
      Grammar.cut_of_not_occursIn (by decide +kernel)
    rw [inline_eq, gap]
    rfl
  rw [last] at apart
  rw [apart]
  exact congrArg (· ++ body ++ behind) first

end Include

end Stencil
