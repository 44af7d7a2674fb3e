import Mathlib.Data.List.DropRight
import TemplateVars.Proofs.Disk.Operations

/-!
# Paths beneath a directory

Where a path leads to a directory, adding a name leads to the place of that name
beneath it, and asking for the directory to be made changes nothing.
-/

namespace TemplateVars

namespace Path

/-- The text of a list of parts is that of all but the last, a slash, and the last. -/
theorem toList_text_concat {parts : List String} (nonempty : parts ≠ []) (last : String) :
    (text ⟨parts ++ [last]⟩).toList = (text ⟨parts⟩).toList ++ '/' :: last.toList := by
  have joined (ls : List (List Char)) (l : List Char) (nonempty : ls ≠ []) :
      List.intercalate ['/'] (ls ++ [l]) = List.intercalate ['/'] ls ++ '/' :: l := by
    induction ls with
    | nil => exact absurd rfl nonempty
    | cons a ls ih =>
        cases ls with
        | nil => simp [List.intercalate]
        | cons b ls =>
            rw [List.cons_append, List.intercalate_cons_of_ne_nil (by simp),
              List.intercalate_cons_of_ne_nil (by simp), ih (by simp)]
            simp
  simp only [text, String.toList_intercalate, List.map_append, List.map_cons, List.map_nil]
  rw [show "/".toList = ['/'] from rfl, joined _ _ (by simpa using nonempty)]

theorem toList_text_nil : (text ⟨[]⟩).toList = [] := by
  simp [text]

theorem toList_text_singleton (part : String) : (text ⟨[part]⟩).toList = part.toList := by
  simp [text]

theorem text_eq_empty {parts : List String} : text ⟨parts⟩ = "" ↔ parts = [] ∨ parts = [""] := by
  rw [← String.toList_inj]
  rcases List.eq_nil_or_concat parts with rfl | ⟨init, last, rfl⟩
  · simp [toList_text_nil]
  · rw [List.concat_eq_append]
    rcases init with _ | ⟨first, rest⟩
    · rw [List.nil_append, toList_text_singleton]
      simp
    · rw [toList_text_concat (by simp)]
      simp

/-- A name beneath a path is set off by a slash, unless the path ends in one. -/
theorem text_child {p : Path} (proper : p.text ≠ "") (name : String) :
    (p.child name).text = p.text ++ (if p.parts.getLast? = some "" then "" else "/") ++ name := by
  apply String.toList_injective
  rcases p with ⟨parts⟩
  rcases List.eq_nil_or_concat parts with rfl | ⟨init, last, rfl⟩
  · exact absurd (text_eq_empty.2 (Or.inl rfl)) proper
  · rw [child]
    simp only [List.concat_eq_append, List.getLast?_concat, Option.some.injEq,
      List.dropLast_concat]
    by_cases slash : last = ""
    · subst slash
      have some : init ≠ [] := by
        rintro rfl
        exact proper (text_eq_empty.2 (Or.inr rfl))
      rw [if_pos rfl, if_pos rfl, toList_text_concat some]
      simp [toList_text_concat some]
    · rw [if_neg slash, if_neg slash, toList_text_concat (by simp)]
      simp

theorem utf8ByteSize_text_le_child {p : Path} (proper : p.text ≠ "") (name : String) :
    p.text.utf8ByteSize ≤ (p.child name).text.utf8ByteSize := by
  rw [text_child proper]
  simp only [String.utf8ByteSize_append]
  omega

@[simp]
theorem isAbsolute_cons_cons (first second : String) (rest : List String) :
    (⟨first :: second :: rest⟩ : Path).isAbsolute = decide (first = "") := by
  by_cases top : first = "" <;> simp [isAbsolute, top]

theorem isAbsolute_concat {parts : List String} (proper : text ⟨parts⟩ ≠ "") (last : String) :
    (⟨parts ++ [last]⟩ : Path).isAbsolute = (⟨parts⟩ : Path).isAbsolute := by
  rcases parts with _ | ⟨first, _ | ⟨second, rest⟩⟩
  · exact absurd (text_eq_empty.2 (Or.inl rfl)) proper
  · have named : first ≠ "" := by
      rintro rfl
      exact proper (text_eq_empty.2 (Or.inr rfl))
    simp [named, isAbsolute]
  · simp

theorem isAbsolute_child {p : Path} (proper : p.text ≠ "") (name : String) :
    (p.child name).isAbsolute = p.isAbsolute := by
  rcases p with ⟨parts⟩
  rw [child]
  split
  · rename_i slash
    rcases parts with _ | ⟨first, _ | ⟨second, rest⟩⟩
    · cases slash
    · cases slash
      exact absurd (text_eq_empty.2 (Or.inr rfl)) proper
    · rcases List.exists_cons_of_ne_nil (l := (second :: rest).dropLast ++ [name]) (by simp) with
        ⟨x, l, same⟩
      rw [List.dropLast_cons_of_ne_nil (by simp), List.cons_append, same]
      simp
  · exact isAbsolute_concat proper name

/-- What a name beneath a path starts from is the path without its idle end. -/
theorem parent_child (p : Path) {name : String} (proper : isIdle name = false) :
    (p.child name).parent = ⟨p.parts.rdropWhile isIdle⟩ := by
  have base : (if p.parts.getLast? = some "" then p.parts.dropLast else p.parts).rdropWhile isIdle =
      p.parts.rdropWhile isIdle := by
    split
    · rename_i slash
      rcases List.eq_nil_or_concat p.parts with nothing | ⟨init, last, parts⟩
      · rw [nothing]
        rfl
      · rw [parts, List.concat_eq_append] at slash ⊢
        rw [List.getLast?_concat] at slash
        cases slash
        rw [List.dropLast_concat, List.rdropWhile_concat_pos _ _ _ (by decide)]
    · rfl
  rw [← base, parent, child, outward, List.reverse_append]
  simp [proper, List.rdropWhile]

end Path

namespace Disk

variable {d : Disk} {p : Path} {place : Place}

theorem locate_eq_ok : d.locate p = .ok place ↔
    p.text ≠ "" ∧ '\x00' ∉ p.text.toList ∧ p.text.utf8ByteSize < maxPathBytes ∧
      p.parts.foldlM d.descend (d.start p) = .ok place := by
  rw [locate, follow]
  by_cases empty : p.text = ""
  · simp [empty]
  · by_cases nul : '\x00' ∈ p.text.toList
    · simp [empty, nul]
    · by_cases long : maxPathBytes ≤ p.text.utf8ByteSize
      · simp [empty, nul, long, Nat.not_lt.2 long]
      · simp [empty, nul, long, Nat.not_le.1 long]

theorem descend_idle (directory : d.entry? place = some .directory) {step : String}
    (idle : Path.isIdle step = true) : d.descend place step = .ok place := by
  rw [Path.isIdle, Bool.or_eq_true, decide_eq_true_eq, decide_eq_true_eq] at idle
  rw [descend, directory]
  exact if_pos idle

theorem descend_name (directory : d.entry? place = some .directory) {name : String}
    (proper : name ≠ "" ∧ name ≠ "." ∧ name ≠ "..") (short : name.utf8ByteSize ≤ maxNameBytes) :
    d.descend place name = .ok (place ++ [name]) := by
  rw [descend, directory]
  simp [proper, Nat.not_lt.2 short]

/-- The names that can stand beneath a path. -/
structure FitsBeneath (p : Path) (name : String) : Prop where
  proper : name ≠ "" ∧ name ≠ "." ∧ name ≠ ".."
  clean : '\x00' ∉ name.toList
  short : name.utf8ByteSize ≤ maxNameBytes
  fits : (p.child name).text.utf8ByteSize < maxPathBytes

theorem directory_of_descend {q : Place} {step : String}
    (descended : d.descend q step = .ok place) :
    d.entry? q = some .directory := by
  rw [descend] at descended
  split at descended
  · cases descended
  · cases descended
  · assumption

theorem start_child (named : p.text ≠ "") (name : String) :
    d.start (p.child name) = d.start p := by
  rw [Disk.start, Disk.start, Path.isAbsolute_child named]

/-- A name beneath a path is one step from where the path leads. -/
theorem locate_child (located : d.locate p = .ok place) {name : String}
    (fits : FitsBeneath p name) : d.locate (p.child name) = d.descend place name := by
  rcases locate_eq_ok.1 located with ⟨named, clean, -, led⟩
  have text := Path.text_child named name
  have base : (if p.parts.getLast? = some "" then p.parts.dropLast else p.parts).foldlM d.descend
      (d.start p) = .ok place := by
    split
    · rename_i slash
      rcases List.eq_nil_or_concat p.parts with nothing | ⟨init, last, parts⟩
      · rw [nothing] at slash
        cases slash
      · -- the empty part behind the slash leads nowhere
        rw [parts, List.concat_eq_append] at slash led ⊢
        rw [List.getLast?_concat] at slash
        cases slash
        rw [List.foldlM_append] at led
        rcases Action.bind_eq_ok.1 led with ⟨q, first, last⟩
        rw [List.foldlM_cons] at last
        rcases Action.bind_eq_ok.1 last with ⟨q', stepped, done⟩
        cases done
        rw [descend_idle (directory_of_descend stepped) (by decide)] at stepped
        cases stepped
        rw [List.dropLast_concat]
        exact first
    · exact led
  have whole : (p.child name).parts.foldlM d.descend (d.start (p.child name)) =
      d.descend place name := by
    rw [start_child named, Path.child, List.foldlM_append, base]
    change List.foldlM d.descend place [name] = _
    rw [List.foldlM_cons]
    cases d.descend place name <;> rfl
  have proper : (p.child name).text ≠ "" := by
    intro nothing
    rw [text] at nothing
    have characters := congrArg String.toList nothing
    simp only [String.toList_append] at characters
    have empty := (List.append_eq_nil_iff.1 characters).2
    exact fits.proper.1 (String.toList_injective (by simpa using empty))
  have noNull : '\x00' ∉ (p.child name).text.toList := by
    rw [text]
    simp only [String.toList_append, List.mem_append, not_or]
    refine ⟨⟨clean, ?_⟩, fits.clean⟩
    split <;> decide
  rw [locate, follow, if_neg proper, if_neg (by simpa using noNull),
    if_neg (Nat.not_le.2 fits.fits), whole]

/-- A path with a name beneath it leads somewhere only if it leads to a directory itself. -/
theorem exists_locate_of_child (named : p.text ≠ "") {name : String}
    (located : d.locate (p.child name) = .ok place) :
    ∃ q, d.locate p = .ok q ∧ d.entry? q = some .directory := by
  rcases locate_eq_ok.1 located with ⟨-, clean, short, led⟩
  rw [Path.text_child named] at clean short
  rw [start_child named, Path.child, List.foldlM_append] at led
  rcases Action.bind_eq_ok.1 led with ⟨q, first, last⟩
  rw [List.foldlM_cons] at last
  rcases Action.bind_eq_ok.1 last with ⟨q', stepped, -⟩
  have directory := directory_of_descend stepped
  refine ⟨q, locate_eq_ok.2 ⟨named, ?_, ?_, ?_⟩, directory⟩
  · intro null
    apply clean
    simp [null]
  · simp only [String.utf8ByteSize_append] at short
    omega
  · split at first
    · rename_i slash
      rcases List.eq_nil_or_concat p.parts with nothing | ⟨init, last, parts⟩
      · rw [nothing] at slash
        cases slash
      · rw [parts, List.concat_eq_append] at slash first ⊢
        rw [List.getLast?_concat] at slash
        cases slash
        rw [List.dropLast_concat] at first
        rw [List.foldlM_append, first]
        change List.foldlM d.descend q [""] = _
        rw [List.foldlM_cons, descend_idle directory (by decide)]
        rfl
    · exact first

/-- A name that a path leads to fits beneath the rest of the path. -/
theorem fitsBeneath_of_locate (named : p.text ≠ "") {name : String}
    (proper : name ≠ "" ∧ name ≠ "." ∧ name ≠ "..")
    (located : d.locate (p.child name) = .ok place) : FitsBeneath p name := by
  rcases locate_eq_ok.1 located with ⟨-, clean, short, led⟩
  refine ⟨proper, ?_, ?_, short⟩
  · intro null
    apply clean
    rw [Path.text_child named]
    simp [null]
  · rw [Path.child, List.foldlM_append] at led
    rcases Action.bind_eq_ok.1 led with ⟨q, -, last⟩
    rw [List.foldlM_cons] at last
    rcases Action.bind_eq_ok.1 last with ⟨q', stepped, -⟩
    rw [descend, directory_of_descend stepped] at stepped
    by_contra long
    simp [proper, Nat.not_le.1 long] at stepped

theorem locate_child_of_directory (located : d.locate p = .ok place)
    (directory : d.entry? place = some .directory) {name : String} (fits : FitsBeneath p name) :
    d.locate (p.child name) = .ok (place ++ [name]) := by
  rw [locate_child located fits, descend_name directory fits.proper fits.short]

theorem locate_child_of_missing (located : d.locate p = .ok place)
    (missing : d.entry? place = none) {name : String} (fits : FitsBeneath p name) :
    d.locate (p.child name) = .error .notFound := by
  rw [locate_child located fits, descend, missing]

/-! ### Making directories that are there -/

theorem run_ensureDirectory (proper : p.parts.getLast? ≠ some "")
    (located : d.locate p = .ok place) :
    (d.entry? place = some .directory → (ensureDirectory p).run.run d = (.ok (), d)) ∧
      (d.entry? place = none →
        (ensureDirectory p).run.run d = (.ok (), d.put place .directory)) := by
  have before : p.beforeSlashes = p.parts := by
    rw [Path.beforeSlashes]
    rcases List.eq_nil_or_concat p.parts with nothing | ⟨init, last, parts⟩
    · rw [nothing]
      rfl
    · rw [parts, List.concat_eq_append, List.getLast?_concat] at proper
      have named : last ≠ "" := fun empty => proper (congrArg some empty)
      rw [parts]
      simp [named]
  have led : d.follow p p.beforeSlashes = .ok place := by
    rw [before]
    exact located
  constructor
  · intro directory
    have there : d.isDirectory p = true := by
      simp [isDirectory, readEntry_eq_ok.2 ⟨place, located, directory⟩]
    refine (Action.run_tryCatch ..).trans ?_
    rw [run_makeDirectory, led]
    simp only [directory]
    refine (Action.run_get_bind ..).trans ?_
    rw [if_pos there]
    rfl
  · intro missing
    refine (Action.run_tryCatch ..).trans ?_
    rw [run_makeDirectory, led]
    simp only [missing]

theorem run_makeDirectories {d' : Disk}
    (ran : p.text ≠ "" → (ensureDirectory p).run.run d = (.ok (), d'))
    (none : p.text = "" → d' = d) : (makeDirectories p).run.run d = (.ok (), d') := by
  rw [makeDirectories]
  split
  · rename_i nothing
    rw [none nothing]
    rfl
  · rename_i proper
    have parts : p.parts.reverse ≠ [] := by
      intro nothing
      exact proper (Path.text_eq_empty.2 (Or.inl (List.reverse_eq_nil_iff.1 nothing)))
    rw [makeDirectoriesUp, dif_neg parts]
    refine (Action.run_tryCatch ..).trans ?_
    rw [List.reverse_reverse, ran proper]

/-- A path leads to the same directory without an idle part at its end. -/
theorem locate_of_concat_idle {parts : List String} {last : String}
    (located : d.locate ⟨parts ++ [last]⟩ = .ok place) (idle : Path.isIdle last = true)
    (proper : Path.text ⟨parts⟩ ≠ "") : d.locate ⟨parts⟩ = .ok place := by
  rcases locate_eq_ok.1 located with ⟨-, clean, short, led⟩
  have some : parts ≠ [] := by
    rintro rfl
    exact proper (Path.text_eq_empty.2 (Or.inl rfl))
  have text : Path.text ⟨parts ++ [last]⟩ = Path.text ⟨parts⟩ ++ "/" ++ last := by
    apply String.toList_injective
    simp [Path.toList_text_concat some]
  rw [text] at clean short
  refine locate_eq_ok.2 ⟨proper, ?_, ?_, ?_⟩
  · intro null
    apply clean
    simp [null]
  · simp only [String.utf8ByteSize_append] at short
    omega
  · rw [List.foldlM_append, Disk.start, Path.isAbsolute_concat proper] at led
    rcases Action.bind_eq_ok.1 led with ⟨q, first, rest⟩
    rw [List.foldlM_cons] at rest
    rcases Action.bind_eq_ok.1 rest with ⟨q', stepped, done⟩
    cases done
    rw [descend_idle (directory_of_descend stepped) idle] at stepped
    cases stepped
    exact first

theorem locate_rdropWhile {parts : List String} (located : d.locate ⟨parts⟩ = .ok place)
    (proper : Path.text ⟨parts.rdropWhile Path.isIdle⟩ ≠ "") :
    d.locate ⟨parts.rdropWhile Path.isIdle⟩ = .ok place := by
  induction parts using List.reverseRecOn with
  | nil => exact located
  | append_singleton parts last ih =>
      by_cases idle : Path.isIdle last = true
      · rw [List.rdropWhile_concat_pos _ _ _ idle] at proper ⊢
        refine ih (locate_of_concat_idle located idle fun nothing => proper ?_) proper
        rcases Path.text_eq_empty.1 nothing with rfl | rfl <;> rfl
      · rwa [List.rdropWhile_concat_neg _ _ _ idle]

/-- Where a directory is, making what its names stand in changes nothing. -/
theorem run_makeDirectories_parent (located : d.locate p = .ok place)
    (directory : d.entry? place = some .directory) {name : String}
    (named : Path.isIdle name = false) :
    (makeDirectories (p.child name).parent).run.run d = (.ok (), d) := by
  rw [Path.parent_child p named]
  refine run_makeDirectories ?_ fun _ => rfl
  intro proper
  refine (run_ensureDirectory ?_ (locate_rdropWhile located proper)).1 directory
  intro slash
  rcases List.eq_nil_or_concat (p.parts.rdropWhile Path.isIdle) with nothing | ⟨init, last, parts⟩
  · rw [nothing] at slash
    cases slash
  · have busy := List.rdropWhile_last_not Path.isIdle p.parts (by simp [parts])
    simp only [parts, List.concat_eq_append, List.getLast?_concat, Option.some.injEq] at slash
    simp [parts, slash, Path.isIdle] at busy

end Disk

end TemplateVars
