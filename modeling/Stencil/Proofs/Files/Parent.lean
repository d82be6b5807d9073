import Mathlib.Data.List.Basic
import Mathlib.Data.List.TakeWhile
import Stencil.Proofs.Files.Name

set_option autoImplicit false

namespace Stencil.Path

/-- The shortest beginning of a path that takes all steps of the path but the last. -/
structure Parent (path directory : Text) : Prop where
  front : directory <+: path
  steps : components directory = (components path).dropLast
  shortest : ∀ other, other <+: path → components other = (components path).dropLast →
    directory.length ≤ other.length

/-- The directory a path lies in. A path of one step lies in the one that it is read against, which
a dot stands for. -/
inductive LiesIn (path : Text) : Text → Prop where
  | bare (alone : Parent path []) : LiesIn path ['.']
  | nested {directory : Text} (parent : Parent path directory) (named : directory ≠ []) :
      LiesIn path directory

/-- A path is one segment, or a first segment with a path behind its slash. -/
theorem slash_induction {motive : Text → Prop}
    (single : ∀ segment, '/' ∉ segment → motive segment)
    (more : ∀ before behind, '/' ∉ before → motive behind → motive (before ++ '/' :: behind))
    (path : Text) : motive path := by
  by_cases slash : '/' ∈ path
  · obtain ⟨before, behind, rfl, whole⟩ := List.eq_append_cons_of_mem slash
    have length : behind.length < (before ++ '/' :: behind).length := by
      simp only [List.length_append, List.length_cons]
      omega
    exact more before behind whole (slash_induction single more behind)
  · exact single path slash
termination_by path.length

theorem segments_cons {before : Text} (single : '/' ∉ before) (behind : Text) :
    segments (before ++ '/' :: behind) = before :: segments behind := by
  rw [segments_append, segments_of_not_mem single, List.singleton_append]

theorem segments_root (rest : Text) : segments ('/' :: rest) = [] :: segments rest :=
  segments_append [] rest

theorem segments_dot (rest : Text) : segments ('.' :: '/' :: rest) = ['.'] :: segments rest :=
  segments_append ['.'] rest

theorem not_mem_of_mem_segments {path segment : Text} (member : segment ∈ segments path) :
    '/' ∉ segment := by
  induction path using slash_induction with
  | single path single =>
      rw [segments_of_not_mem single, List.mem_singleton] at member
      rwa [member]
  | more before behind single ih =>
      rw [segments_cons single, List.mem_cons] at member
      rcases member with rfl | member
      · exact single
      · exact ih member

theorem ofSegments_cons {segment : Text} {segments : List Text} (more : segments ≠ []) :
    ofSegments (segment :: segments) = segment ++ '/' :: ofSegments segments := by
  rw [ofSegments, List.intercalate_cons_of_ne_nil more, List.append_assoc]
  rfl

theorem ofSegments_prefix (first second : List Text) :
    ofSegments first <+: ofSegments (first ++ second) := by
  induction first with
  | nil => exact List.nil_prefix
  | cons segment first ih =>
      cases first with
      | nil =>
          cases second with
          | nil => exact List.prefix_rfl
          | cons next second =>
              rw [List.singleton_append, ofSegments_cons (List.cons_ne_nil next second),
                ofSegments, List.intercalate_singleton]
              exact List.prefix_append segment _
      | cons next first =>
          have behind : next :: first ++ second ≠ [] := by simp
          rw [List.cons_append, ofSegments_cons (List.cons_ne_nil next first),
            ofSegments_cons behind, List.prefix_append_right_inj, List.cons_prefix_cons]
          exact ⟨rfl, ih⟩

theorem segments_ofSegments {pieces : List Text} (nonempty : pieces ≠ [])
    (single : ∀ piece ∈ pieces, '/' ∉ piece) : segments (ofSegments pieces) = pieces :=
  List.splitOn_intercalate '/' single nonempty

theorem ofSegments_segments (path : Text) : ofSegments (segments path) = path :=
  List.intercalate_splitOn '/'

/-- Where a path is broken off, its segments up to there are the same, and the one that is broken
off is the beginning of one. -/
theorem segments_of_prefix {beginning path : Text} (front : beginning <+: path) :
    ∃ same last whole more, segments beginning = same ++ [last] ∧
      segments path = same ++ whole :: more ∧ last <+: whole := by
  obtain ⟨rest, rfl⟩ := front
  induction beginning using slash_induction with
  | single beginning single =>
      by_cases slash : '/' ∈ rest
      · obtain ⟨before, behind, rfl, whole⟩ := List.eq_append_cons_of_mem slash
        refine ⟨[], beginning, beginning ++ before, segments behind, segments_of_not_mem single, ?_,
          List.prefix_append beginning before⟩
        rw [← List.append_assoc, segments_cons (by simp [single, whole]), List.nil_append]
      · refine ⟨[], beginning, beginning ++ rest, [], segments_of_not_mem single, ?_,
          List.prefix_append beginning rest⟩
        exact segments_of_not_mem (by simp [single, slash])
  | more before behind single ih =>
      obtain ⟨same, last, whole, more, broken, split, start⟩ := ih
      refine ⟨before :: same, last, whole, more, ?_, ?_, start⟩
      · rw [segments_cons single, broken, List.cons_append]
      · rw [List.append_assoc, List.cons_append, segments_cons single, split, List.cons_append]

/-- The root or the dot that the front of a path stands for. -/
def lead (path : Text) : List Component :=
  if isAbsolute path then [.root]
  else if (segments path).head? = some ['.'] then [.here]
  else []

theorem components_eq (path : Text) :
    components path = lead path ++ (segments path).filterMap component? := by
  unfold components lead
  split
  · rfl
  · split <;> rfl

theorem lead_cases (path : Text) : lead path = [.root] ∨ lead path = [.here] ∨ lead path = [] := by
  unfold lead
  split
  · exact Or.inl rfl
  · split <;> simp

theorem lead_eq {first second : Text} (absolute : isAbsolute first = isAbsolute second)
    (head : (segments first).head? = (segments second).head?) : lead first = lead second := by
  simp only [lead, absolute, head]

/-- Whether a step leads from one directory to another. -/
def Component.moves : Component → Bool
  | up => true
  | name _ => true
  | root => false
  | here => false

theorem moves_of_component? {segment : Text} {step : Component}
    (found : component? segment = some step) : step.moves = true := by
  unfold component? at found
  split at found
  · cases found
  · split at found <;> cases found <;> rfl

theorem component?_inj {first second : Text} {step : Component}
    (one : component? first = some step) (other : component? second = some step) :
    first = second := by
  unfold component? at one other
  split at one
  · cases one
  · split at other
    · cases other
    · split at one <;> split at other <;> cases one <;> simp_all

theorem filter_components (path : Text) :
    (components path).filter Component.moves = (segments path).filterMap component? := by
  have still : (lead path).filter Component.moves = [] := by
    rcases lead_cases path with front | front | front <;> rw [front] <;> rfl
  rw [components_eq, List.filter_append, still, List.nil_append, List.filter_eq_self]
  intro step member
  obtain ⟨segment, _, found⟩ := List.mem_filterMap.1 member
  exact moves_of_component? found

theorem exists_component {segment : Text} (named : isIdle segment = false) :
    ∃ step, component? segment = some step :=
  Option.ne_none_iff_exists'.1 (by simp [component?_eq_none_iff, named])

theorem isIdle_of_beginning {beginning segment : Text} (start : beginning <+: segment)
    (idle : isIdle segment = true) : isIdle beginning = true := by
  simp only [isIdle, Bool.or_eq_true, decide_eq_true_eq] at idle ⊢
  rcases idle with rfl | rfl
  · exact Or.inl (List.prefix_nil.1 start)
  · simpa [List.prefix_cons_iff] using start

/-- The beginning of a segment takes no steps that need segments behind it. -/
theorem eq_of_steps_eq {last whole : Text} {more : List Text} (start : last <+: whole)
    (ends : ∀ final ∈ (whole :: more).getLast?, isIdle final = false)
    (steps : [last].filterMap component? = (whole :: more).filterMap component?) :
    more = [] ∧ last = whole := by
  cases more with
  | nil =>
      obtain ⟨step, found⟩ := exists_component (ends whole rfl)
      have also : component? last = some step := by
        cases here : component? last with
        | none => simp [here, found] at steps
        | some other => simpa [here, found] using steps
      exact ⟨rfl, component?_inj also found⟩
  | cons next more =>
      -- The final segment takes a step of its own, so that the one that is broken off takes none.
      obtain ⟨final, found⟩ : ∃ final, (next :: more).getLast? = some final :=
        Option.ne_none_iff_exists'.1 (by simp)
      obtain ⟨step, taken⟩ := exists_component (ends final (by simp [found]))
      have present : step ∈ (next :: more).filterMap component? :=
        List.mem_filterMap.2 ⟨final, List.mem_of_getLast? found, taken⟩
      have idle : component? whole = none := by
        cases here : component? whole with
        | none => rfl
        | some first =>
            rw [List.filterMap_cons_some here] at steps
            have length := congrArg List.length steps
            have positive := List.length_pos_of_mem present
            have bound := List.length_filterMap_le component? [last]
            simp only [List.length_cons, List.length_nil] at length bound
            omega
      have broken : component? last = none :=
        component?_eq_none_iff.2 (isIdle_of_beginning start (component?_eq_none_iff.1 idle))
      rw [List.filterMap_cons_none idle, List.filterMap_cons_none broken] at steps
      rw [← steps] at present
      cases present

/-- A path that ends in a name or a step up has other steps than any beginning of it. -/
theorem eq_of_components_eq {beginning path : Text} (front : beginning <+: path)
    (ends : ∀ last ∈ (segments path).getLast?, isIdle last = false)
    (same : components beginning = components path) : beginning = path := by
  obtain ⟨before, last, whole, more, broken, split, start⟩ := segments_of_prefix front
  have steps := congrArg (List.filter Component.moves) same
  rw [filter_components, filter_components, broken, split, List.filterMap_append,
    List.filterMap_append, List.append_cancel_left_eq] at steps
  have final : (segments path).getLast? = (whole :: more).getLast? := by
    rw [split, List.getLast?_append_cons]
  obtain ⟨rfl, rfl⟩ := eq_of_steps_eq start (final ▸ ends) steps
  rw [← ofSegments_segments beginning, broken, ← split, ofSegments_segments]

theorem isAbsolute_of_prefix {beginning path : Text} (front : beginning <+: path)
    (nonempty : beginning ≠ []) : isAbsolute beginning = isAbsolute path := by
  obtain ⟨rest, rfl⟩ := front
  obtain ⟨first, more, rfl⟩ := List.exists_cons_of_ne_nil nonempty
  rfl

/-- Segments up to one that takes a step, with one more step behind them. -/
theorem parent_ofSegments {path : Text} {named behind : List Text} {step : Component}
    (pieces : segments path = named ++ behind) (nonempty : named ≠ [])
    (ends : ∀ last ∈ named.getLast?, isIdle last = false)
    (final : behind.filterMap component? = [step]) : Parent path (ofSegments named) := by
  have whole : segments (ofSegments named) = named := by
    refine segments_ofSegments nonempty fun piece member => ?_
    exact not_mem_of_mem_segments (pieces ▸ List.mem_append_left behind member)
  have front : ofSegments named <+: path := by
    rw [← ofSegments_segments path, pieces]
    exact ofSegments_prefix named behind
  have present : ofSegments named ≠ [] := by
    intro empty
    rw [empty] at whole
    exact absurd (ends [] (by rw [← whole]; rfl)) (by decide)
  have absolute := isAbsolute_of_prefix front present
  have head : (segments path).head? = named.head? := by
    obtain ⟨first, more, rfl⟩ := List.exists_cons_of_ne_nil nonempty
    rw [pieces]
    rfl
  have steps : components (ofSegments named) = (components path).dropLast := by
    rw [components_eq, components_eq path, lead_eq absolute (by rw [whole, head]), whole, pieces,
      List.filterMap_append, final, ← List.append_assoc, List.dropLast_concat]
  refine ⟨front, steps, fun other before same => Nat.not_lt.1 fun shorter => ?_⟩
  have inner : other <+: ofSegments named :=
    List.prefix_of_prefix_length_le before front (Nat.le_of_lt shorter)
  have equal := eq_of_components_eq inner (by rwa [whole]) (same.trans steps.symm)
  rw [equal] at shorter
  exact Nat.lt_irrefl _ shorter

theorem eq_of_head?_segments {path : Text} (dot : (segments path).head? = some ['.']) :
    path = ['.'] ∨ ∃ rest, path = '.' :: '/' :: rest := by
  obtain ⟨more, split⟩ := List.head?_eq_some_iff.1 dot
  have whole := ofSegments_segments path
  rw [split] at whole
  cases more with
  | nil => exact Or.inl whole.symm
  | cons next more =>
      rw [ofSegments_cons (List.cons_ne_nil next more)] at whole
      exact Or.inr ⟨_, whole.symm⟩

/-- A path begins with the root or with a dot, or all of it is steps behind the front. -/
theorem front_cases (path : Text) :
    (∃ rest, path = '/' :: rest) ∨ path = ['.'] ∨ (∃ rest, path = '.' :: '/' :: rest) ∨
      (front path).1 = [] ∧ (front path).2 = path ∧
        components path = (segments path).filterMap component? := by
  fun_cases front path with
  | case1 rest => exact Or.inl ⟨rest, rfl⟩
  | case2 => exact Or.inr (Or.inl rfl)
  | case3 rest => exact Or.inr (Or.inr (Or.inl ⟨rest, rfl⟩))
  | case4 path unrooted alone dotted =>
      have relative : isAbsolute path = false := by
        cases path with
        | nil => rfl
        | cons c path =>
            have other : c ≠ '/' := fun slash => unrooted path (by rw [slash])
            simp [isAbsolute, other]
      have undotted : (segments path).head? ≠ some ['.'] := by
        intro dot
        rcases eq_of_head?_segments dot with same | ⟨rest, same⟩
        · exact alone same
        · exact dotted rest same
      have none : lead path = [] := by simp [lead, relative, undotted]
      exact Or.inr (Or.inr (Or.inr ⟨rfl, rfl, by rw [components_eq, none, List.nil_append]⟩))

theorem components_root (rest : Text) :
    components ('/' :: rest) = .root :: (segments ('/' :: rest)).filterMap component? := rfl

theorem components_dot (rest : Text) :
    components ('.' :: '/' :: rest) =
      .here :: (segments ('.' :: '/' :: rest)).filterMap component? := by
  simp only [components, segments_dot]
  rfl

theorem parent_front {path : Text} {step : Component}
    (single : (segments path).filterMap component? = [step]) : Parent path (front path).1 := by
  have least {first : Component} (other : Text)
      (same : components other = (first :: [step]).dropLast) : 1 ≤ other.length := by
    cases other with
    | nil => exact absurd same (List.cons_ne_nil first []).symm
    | cons c other => exact Nat.le_add_left 1 other.length
  rcases front_cases path with ⟨rest, rfl⟩ | rfl | ⟨rest, rfl⟩ | ⟨bare, _, steps⟩
  · have steps : components ('/' :: rest) = .root :: [step] := by
      rw [components_root, single]
    exact ⟨⟨rest, rfl⟩, steps ▸ rfl, fun other _ same => least other (steps ▸ same)⟩
  · cases single
  · have steps : components ('.' :: '/' :: rest) = .here :: [step] := by
      rw [components_dot, single]
    exact ⟨⟨'/' :: rest, rfl⟩, steps ▸ rfl, fun other _ same => least other (steps ▸ same)⟩
  · rw [bare]
    rw [single] at steps
    exact ⟨List.nil_prefix, steps ▸ rfl, fun other _ _ => Nat.zero_le other.length⟩

/-- What stands in front of the last step behind the front of a path, if there is something. -/
theorem parent_append {path : Text} {named behind : List Text} {step : Component}
    (pieces : segments (front path).2 = named ++ behind) (nonempty : named ≠ [])
    (ends : ∀ last ∈ named.getLast?, isIdle last = false)
    (final : behind.filterMap component? = [step]) :
    Parent path ((front path).1 ++ ofSegments named) := by
  rcases front_cases path with ⟨rest, rfl⟩ | rfl | ⟨rest, rfl⟩ | ⟨bare, whole, _⟩
  · have split : segments ('/' :: rest) = ([] :: named) ++ behind := by
      rw [segments_root, List.cons_append, ← pieces]
      rfl
    have last : ([] :: named).getLast? = named.getLast? := List.getLast?_cons_of_ne_nil nonempty
    have parent := parent_ofSegments split (List.cons_ne_nil [] named) (last ▸ ends) final
    rwa [ofSegments_cons nonempty] at parent
  · have first : named = [[]] := by
      obtain ⟨segment, more, rfl⟩ := List.exists_cons_of_ne_nil nonempty
      simp_all [front, segments]
    exact absurd (ends [] (by rw [first]; rfl)) (by decide)
  · -- The slash behind the dot makes the first of the segments an empty one.
    have slash : segments (front ('.' :: '/' :: rest)).2 = [] :: segments rest := segments_root rest
    obtain ⟨segment, more, rfl⟩ := List.exists_cons_of_ne_nil nonempty
    rw [slash, List.cons_append, List.cons.injEq] at pieces
    obtain ⟨rfl, pieces⟩ := pieces
    have others : more ≠ [] := by
      rintro rfl
      exact absurd (ends [] rfl) (by decide)
    have split : segments ('.' :: '/' :: rest) = (['.'] :: more) ++ behind := by
      rw [segments_dot, pieces, List.cons_append]
    rw [List.getLast?_cons_of_ne_nil others] at ends
    have last : (['.'] :: more).getLast? = more.getLast? := List.getLast?_cons_of_ne_nil others
    have parent := parent_ofSegments split (List.cons_ne_nil _ more) (last ▸ ends) final
    rw [ofSegments_cons others] at parent ⊢
    exact parent
  · rw [bare]
    rw [whole] at pieces
    exact parent_ofSegments pieces nonempty ends final

theorem exists_idle (pieces : List Text) :
    ∃ idle, pieces = (pieces.reverse.dropWhile isIdle).reverse ++ idle ∧
      idle.filterMap component? = [] := by
  refine ⟨(pieces.reverse.takeWhile isIdle).reverse, ?_, ?_⟩
  · rw [← List.reverse_append, List.takeWhile_append_dropWhile, List.reverse_reverse]
  · rw [List.filterMap_eq_nil_iff]
    intro segment member
    rw [component?_eq_none_iff]
    exact List.mem_takeWhile_imp (List.mem_reverse.1 member)

theorem isIdle_of_head?_dropWhile {pieces : List Text} {last : Text}
    (first : (pieces.dropWhile isIdle).head? = some last) : isIdle last = false := by
  have head := List.head?_dropWhile_not isIdle pieces
  rw [first] at head
  simpa using head

theorem parent_getD (path : Text) : Parent path ((parent? path).getD []) := by
  cases reached : tail path with
  | nil =>
      have idle : (segments path).filterMap component? = [] := by
        rw [← filterMap_segments_front, List.filterMap_eq_nil_iff]
        intro segment member
        rw [component?_eq_none_iff]
        exact List.dropWhile_eq_nil_iff.1 reached segment (List.mem_reverse.2 member)
      have given : (parent? path).getD [] = [] := by
        simp only [parent?, reached]
        split <;> rfl
      have steps : (components path).dropLast = [] := by
        rw [components_eq, idle, List.append_nil]
        rcases lead_cases path with front | front | front <;> rw [front] <;> rfl
      rw [given]
      exact ⟨List.nil_prefix, steps.symm, fun other _ _ => Nat.zero_le other.length⟩
  | cons last more =>
      have given : (parent? path).getD [] =
          (front path).1 ++ ofSegments (more.dropWhile isIdle).reverse := by
        simp only [parent?, reached, Option.getD_some]
      obtain ⟨step, found⟩ :=
        exists_component (isIdle_of_head?_dropWhile (congrArg List.head? reached))
      obtain ⟨after, whole, still⟩ := exists_idle (segments (front path).2)
      obtain ⟨between, inner, idle⟩ := exists_idle more.reverse
      have pieces : segments (front path).2 =
          (more.dropWhile isIdle).reverse ++ (between ++ last :: after) := by
        rw [show List.dropWhile isIdle _ = _ from reached, List.reverse_cons] at whole
        rw [List.reverse_reverse] at inner
        rw [whole, inner]
        simp
      have final : (between ++ last :: after).filterMap component? = [step] := by
        rw [List.filterMap_append, idle, List.filterMap_cons_some found, still, List.nil_append]
      rw [given]
      by_cases alone : (more.dropWhile isIdle).reverse = []
      · rw [alone, List.nil_append] at pieces
        rw [alone, show ofSegments [] = [] from rfl, List.append_nil]
        exact parent_front (by rw [← filterMap_segments_front, pieces, final])
      · refine parent_append pieces alone (fun last ends => ?_) final
        rw [List.getLast?_reverse] at ends
        exact isIdle_of_head?_dropWhile ends

theorem Parent.unique {path first second : Text} (one : Parent path first)
    (other : Parent path second) : first = second := by
  have below := one.shortest second other.front other.steps
  have inner := List.prefix_of_prefix_length_le one.front other.front below
  exact inner.eq_of_length_le (other.shortest first one.front one.steps)

theorem parent_iff {path directory : Text} :
    Parent path directory ↔ directory = (parent? path).getD [] := by
  constructor
  · exact fun parent => parent.unique (parent_getD path)
  · rintro rfl
    exact parent_getD path

theorem liesIn_iff {path there : Text} : LiesIn path there ↔ there = directory path := by
  have parent := parent_getD path
  have read : directory path =
      if (parent? path).getD [] = [] then ['.'] else (parent? path).getD [] := by
    unfold directory
    split <;> simp_all
  rw [read]
  constructor
  · rintro (alone | ⟨other, named⟩)
    · rw [if_pos (parent.unique alone)]
    · rw [parent.unique other, if_neg named]
  · rintro rfl
    split
    · rename_i alone
      exact .bare (alone ▸ parent)
    · exact .nested parent ‹_›

theorem components_eq_of_segments {first second : Text} {same behind after : List Text}
    (nonempty : same ≠ []) (absolute : isAbsolute first = isAbsolute second)
    (one : segments first = same ++ behind) (other : segments second = same ++ after)
    (steps : behind.filterMap component? = after.filterMap component?) :
    components first = components second := by
  obtain ⟨segment, more, rfl⟩ := List.exists_cons_of_ne_nil nonempty
  have head : (segments first).head? = (segments second).head? := by
    rw [one, other]
    rfl
  rw [components_eq, components_eq, lead_eq absolute head, one, other, List.filterMap_append,
    List.filterMap_append, steps]

theorem components_join_dot {directory : Text} (named : directory ≠ []) :
    components (join directory ['.']) = components directory := by
  have read : join directory ['.'] =
      if directory.getLast? = some '/' then directory ++ ['.'] else directory ++ '/' :: ['.'] := by
    simp [join, isAbsolute, named]
  have dot (before : Text) : segments (before ++ '/' :: ['.']) = segments before ++ [['.']] :=
    segments_append before ['.']
  rw [read]
  split
  · rename_i slash
    obtain ⟨before, rfl⟩ := List.getLast?_eq_some_iff.1 slash
    have absolute := isAbsolute_of_prefix (List.prefix_append (before ++ ['/']) ['.']) named
    rw [List.append_assoc, List.singleton_append] at absolute ⊢
    exact components_eq_of_segments (segments_ne_nil before) absolute.symm (dot before)
      (segments_append before []) rfl
  · have absolute := isAbsolute_of_prefix (List.prefix_append directory ('/' :: ['.'])) named
    exact components_eq_of_segments (segments_ne_nil directory) absolute.symm (dot directory)
      (List.append_nil _).symm rfl

/-- A dot read against what stands in front of a path is, step by step, the directory it lies in. -/
theorem components_join_parent {path directory there : Text} (parent : Parent path directory)
    (lies : LiesIn path there) : components (join directory ['.']) = components there := by
  rcases lies with alone | ⟨other, named⟩
  · rw [parent.unique alone]
    rfl
  · rw [parent.unique other]
    exact components_join_dot named

end Stencil.Path
