import TemplateVars.Proofs.Render.Supplement

/-!
# Loading by long names

Names are stored up to a width, and loading takes the stored name for all it
does in a frame: it tests whether the frame holds that name and binds it. A name
that a call lists can be longer. If it is, the variable comes to be bound under
another name than the one it was asked for by, and the test passes over what the
frame holds under the longer one. What becomes of a listed name is told by the
names that are offered to the frame in their order: which of them the frame
lacks, and which answer to one another where case does not count.
-/

namespace TemplateVars

open TreeUpdate

/-- What answers to a name answers to all names that the name's own key answers to. -/
theorem Key.Answers.trans_parse {name other : String} {anyCase : Bool} {key : Key}
    (answers : key.Answers name anyCase) (own : (parse name).Answers other anyCase) :
    key.Answers other anyCase := by
  rcases own with routed | named | ⟨any, word, same⟩
  · rwa [← parse_injective routed]
  · rwa [← (parse_eq_named.1 named).1]
  · subst any
    rw [answers_spelling word]
    cases routed : parse name with
    | numbered n => simp [routed, lower?] at same
    | named k =>
        rw [routed, ← (parse_eq_named.1 routed).1] at same
        have folded := Option.some.inj same
        rwa [answers_spelling ((Text.isDigits_of_lower_eq folded).trans word), folded] at answers

namespace Tree

variable {t t' : Tree} {id : FrameId} {f : Frame} {anyCase : Bool}
  {vars : List (String × Variable)}

theorem SameAt.refl (t : Tree) (id : FrameId) (key : Key) : t.SameAt t id key := ⟨rfl, rfl, rfl⟩

theorem SameAt.symm {key : Key} (same : t.SameAt t' id key) : t'.SameAt t id key :=
  ⟨same.ref?_eq.symm, same.node?_eq.symm, same.cached?_eq.symm⟩

/-- A frame locates a name that it located before, and those that a new binding answers to. -/
theorem Binds.isSome_locateLocal_iff {name : String} {node : Node} {text : String} {ref : NodeRef}
    (b : t.Binds id (Key.parse name) node text f ref t') (other : String) :
    (t'.locateLocal id other anyCase).isSome ↔
      (t.locateLocal id other anyCase).isSome ∨ (Key.parse name).Answers other anyCase := by
  simp only [Tree.isSome_locateLocal_iff, b.ref?_eq, true_and]
  constructor
  · rintro ⟨key, answers, bound⟩
    split at bound
    · rename_i own
      exact Or.inr (own ▸ answers)
    · exact Or.inl ⟨key, answers, bound⟩
  · rintro (⟨key, answers, bound⟩ | answers)
    · refine ⟨key, answers, ?_⟩
      split
      · rfl
      · exact bound
    · exact ⟨_, answers, by simp⟩

/--
A frame before and after variables are offered to it in the order of their
names. Each name then answers to the others that its key answers to. It is not
bound anew if the frame held it, or if a name that came before answers to it.
-/
structure Accepts (t : Tree) (id : FrameId) (anyCase : Bool) (vars : List (String × Variable))
    (t' : Tree) : Prop where
  located : ∀ name, (t'.locateLocal id name anyCase).isSome ↔
    (t.locateLocal id name anyCase).isSome ∨ ∃ e ∈ vars, (Key.parse e.1).Answers name anyCase
  apart : ∀ key, (∀ e ∈ vars, key ≠ Key.parse e.1) → t.SameAt t' id key
  passed : ∀ e ∈ vars, t.SameAt t' id (Key.parse e.1) ↔
    (t.locateLocal id e.1 anyCase).isSome ∨
      ∃ e' ∈ vars, compare e'.1 e.1 = .lt ∧ (Key.parse e'.1).Answers e.1 anyCase

theorem accepts_nil (t : Tree) (id : FrameId) (anyCase : Bool) : t.Accepts id anyCase [] t where
  located := by simp
  apart key _ := .refl t id key
  passed := nofun

/-- Before the others the first variable is bound, or passed over where the frame holds its name. -/
theorem Accepts.cons {t₁ : Tree} {e : String × Variable}
    (sorted : (e :: vars).Pairwise fun a b => compare a.1 b.1 = .lt)
    (rest : t₁.Accepts id anyCase vars t')
    (held : ∀ name, (t₁.locateLocal id name anyCase).isSome ↔
      (t.locateLocal id name anyCase).isSome ∨ (Key.parse e.1).Answers name anyCase)
    (others : ∀ key, key ≠ Key.parse e.1 → t.SameAt t₁ id key)
    (first : t.SameAt t₁ id (Key.parse e.1) ↔ (t.locateLocal id e.1 anyCase).isSome) :
    t.Accepts id anyCase (e :: vars) t' := by
  have below := (List.pairwise_cons.1 sorted).1
  have self : compare e.1 e.1 = .eq := Std.ReflCmp.compare_self
  have different (e' : String × Variable) (listed : e' ∈ vars) :
      Key.parse e'.1 ≠ Key.parse e.1 := by
    intro same
    have lt := below e' listed
    rw [Key.parse_injective same, self] at lt
    cases lt
  refine ⟨fun name => ?_, fun key away => ?_, ?_⟩
  · simp only [rest.located, held, List.mem_cons, exists_eq_or_imp, or_assoc]
  · rw [List.forall_mem_cons] at away
    exact (others key away.1).trans (rest.apart key away.2)
  · rw [List.forall_mem_cons]
    constructor
    · have untouched := rest.apart (Key.parse e.1) fun e' listed => (different e' listed).symm
      have least : ¬ ∃ e' ∈ e :: vars, compare e'.1 e.1 = .lt ∧
          (Key.parse e'.1).Answers e.1 anyCase := by
        rintro ⟨e', listed, lt, -⟩
        rcases List.mem_cons.1 listed with rfl | later
        · rw [self] at lt
          cases lt
        · rw [Std.OrientedCmp.gt_of_lt (below e' later)] at lt
          cases lt
      rw [or_iff_left least, ← first]
      exact ⟨fun same => same.trans untouched.symm, fun same => same.trans untouched⟩
    · intro e' listed
      have before := others (Key.parse e'.1) (different e' listed)
      have step : t.SameAt t' id (Key.parse e'.1) ↔ t₁.SameAt t' id (Key.parse e'.1) :=
        ⟨fun same => before.symm.trans same, fun same => before.trans same⟩
      simp only [step, rest.passed e' listed, held, List.mem_cons, exists_eq_or_imp, or_assoc,
        below e' listed, true_and]

theorem exists_accepts (separate : t.Separate) (frame : t.frame? id = some f) (anyCase : Bool)
    (sorted : vars.Pairwise fun a b => compare a.1 b.1 = .lt) :
    ∃ n t', Yields (Engine.bindMissing anyCase id t vars) (n, t') ∧
      t.Accepts id anyCase vars t' := by
  induction vars generalizing t f with
  | nil => exact ⟨0, t, yields_pure.2 rfl, accepts_nil t id anyCase⟩
  | cons e vars ih =>
      rcases e with ⟨name, v⟩
      have tail := (List.pairwise_cons.1 sorted).2
      cases located : t.locateLocal id name anyCase with
      | some key =>
          rcases ih separate frame tail with ⟨n, t', ran, rest⟩
          refine ⟨n, t', ?_, rest.cons sorted (fun other => ?_) (fun key _ => .refl t id key) ?_⟩
          · rw [Engine.bindMissing, located]
            exact ran
          · -- what is located under the name is located under all that the name answers to
            refine (or_iff_left_of_imp fun own => ?_).symm
            rcases isSome_locateLocal_iff.1 (Option.isSome_of_mem located) with
              ⟨key, answers, bound⟩
            exact isSome_locateLocal_iff.2 ⟨key, answers.trans_parse own, bound⟩
          · simp [located, SameAt.refl]
      | none =>
          rcases exists_set separate.valid frame name v.toNode with ⟨t₁, ref, set, b⟩
          rcases ih (b.separate separate) b.frame?_self tail with ⟨n, t', ran, rest⟩
          refine ⟨n + 1, t', ?_, rest.cons sorted b.isSome_locateLocal_iff (fun key away => ?_) ?_⟩
          · rw [Engine.bindMissing, located]
            simp only [Option.isSome_none, Bool.false_eq_true, if_false, yields_bind, yields_pure]
            exact ⟨t₁, set, (n, t'), ran, rfl⟩
          · exact b.sameAt separate fun same => away same.2
          · have free : t.ref? id (Key.parse name) = none := by
              by_contra bound
              have found : (t.locateLocal id name anyCase).isSome :=
                isSome_locateLocal_iff.2 ⟨_, Or.inl rfl, Option.isSome_iff_ne_none.2 bound⟩
              rw [located] at found
              cases found
            simp only [located, Option.isSome_none, Bool.false_eq_true, iff_false]
            intro same
            have bound := b.isSome_ref?
            rw [same.ref?_eq, free] at bound
            cases bound

end Tree

/-! ### The names that a call lists -/

/-- A call lists a name, and what is stored of it is the name of a variable that its set has. -/
def VerbCall.Asks (call : VerbCall) (stored : Option PageRecord) (name : String) : Prop :=
  name ∈ call.names ∧ (stored.bind (·.stored? call.setKey (truncateName name))).isSome

instance (call : VerbCall) (stored : Option PageRecord) (name : String) :
    Decidable (call.Asks stored name) :=
  inferInstanceAs (Decidable (_ ∧ _))

/-- The entries that a reading of a page gives are those of the names that it is asked for. -/
theorem VerbCall.exists_mem_filtered_iff {call : VerbCall} {stored : Option PageRecord}
    {vars : SortedMap String Variable} (lists : call.names ≠ [])
    (read : stored.bind (·.filtered (call.options.setName.getD "") call.names) = some vars)
    (P : String → Prop) :
    (∃ e ∈ vars.toList, P e.1) ↔ ∃ name, call.Asks stored name ∧ P (truncateName name) := by
  rcases Option.bind_eq_some_iff.1 read with ⟨r, rfl, filtered⟩
  have found := r.find?_filtered (call.options.setName.getD "") call.names
  rw [filtered] at found
  simp only [Option.bind_some, lists, false_or] at found
  constructor
  · rintro ⟨⟨key, v⟩, listed, holds⟩
    have own := found key
    rw [SortedMap.find?_eq_some.2 listed] at own
    split at own
    · rename_i asked
      rcases List.mem_map.1 asked with ⟨name, given, rfl⟩
      exact ⟨name, ⟨given, by rw [Option.bind_some, VerbCall.setKey, ← own]; rfl⟩, holds⟩
    · cases own
  · rintro ⟨name, ⟨listed, there⟩, holds⟩
    have own := found (truncateName name)
    rw [if_pos (List.mem_map_of_mem listed)] at own
    rw [Option.bind_some, VerbCall.setKey, ← own] at there
    rcases Option.isSome_iff_exists.1 there with ⟨v, bound⟩
    exact ⟨⟨_, v⟩, SortedMap.find?_eq_some.1 bound, holds⟩

namespace Tree

variable {t t' : Tree} {id : FrameId} {call : VerbCall} {stored : Option PageRecord}
  {name : String}

/--
A frame before and after variables are loaded into it that a call lists. The name
can be read. If it could be read before, nothing was bound for its sake: what is
stored of it is bound as it was, unless another name of which the same is stored
could not be read.
-/
def Provides (t : Tree) (id : FrameId) (call : VerbCall) (name : String) (t' : Tree) : Prop :=
  (t'.get id name call.options.anyCase false).value.isSome ∧
    ((t.get id name call.options.anyCase false).value.isSome →
      t.SameAt t' id (Key.parse (truncateName name)) ∨
        ∃ other ∈ call.names, truncateName other = truncateName name ∧
          (t.get id other call.options.anyCase false).value = none)

/--
Where the width of stored names does no harm. A name that the frame lacks is
answered to by one that is offered. A name that it holds is held under its
stored form as well, or one that is offered first answers to that, or it is
needed for another name.
-/
structure WidthHarmless (t : Tree) (id : FrameId) (call : VerbCall) (stored : Option PageRecord)
    (name : String) : Prop where
  lacking : t.locateLocal id name call.options.anyCase = none →
    ∃ other, call.Asks stored other ∧
      (Key.parse (truncateName other)).Answers name call.options.anyCase
  holding : (t.locateLocal id name call.options.anyCase).isSome →
    (t.locateLocal id (truncateName name) call.options.anyCase).isSome ∨
      (∃ other, call.Asks stored other ∧
        compare (truncateName other) (truncateName name) = .lt ∧
        (Key.parse (truncateName other)).Answers (truncateName name) call.options.anyCase) ∨
      ∃ other ∈ call.names, truncateName other = truncateName name ∧
        t.locateLocal id other call.options.anyCase = none

/-- Names within the width are not cut. -/
theorem widthHarmless_of_short (asks : call.Asks stored name) (short : truncateName name = name) :
    t.WidthHarmless id call stored name where
  lacking _ := ⟨name, asks, by rw [short]; exact Or.inl rfl⟩
  holding held := Or.inl (by rwa [short])

theorem isSome_get_own (separate : t.Separate) (anyCase : Bool) :
    (t.get id name anyCase false).value.isSome ↔ (t.locateLocal id name anyCase).isSome := by
  rw [isSome_get_iff separate, locate_own, Option.isSome_map]

theorem Accepts.provides_iff {vars : SortedMap String Variable} (separate : t.Separate)
    (separate' : t'.Separate) (accepts : t.Accepts id call.options.anyCase vars.toList t')
    (read : stored.bind (·.filtered (call.options.setName.getD "") call.names) = some vars)
    (asks : call.Asks stored name) :
    t.Provides id call name t' ↔ t.WidthHarmless id call stored name := by
  have lists : call.names ≠ [] := List.ne_nil_of_mem asks.1
  have offered := VerbCall.exists_mem_filtered_iff lists read
  have unread (other : String) : (t.get id other call.options.anyCase false).value = none ↔
      t.locateLocal id other call.options.anyCase = none := by
    rw [← Option.not_isSome_iff_eq_none, isSome_get_own separate, Option.not_isSome_iff_eq_none]
  rcases (offered (· = truncateName name)).2 ⟨name, asks, rfl⟩ with ⟨own, listed, cut⟩
  have passed := accepts.passed own listed
  rw [cut, offered fun key => compare key (truncateName name) = .lt ∧
    (Key.parse key).Answers (truncateName name) call.options.anyCase] at passed
  rw [Provides, isSome_get_own separate', isSome_get_own separate, accepts.located,
    offered fun key => (Key.parse key).Answers name call.options.anyCase, passed]
  simp only [unread, or_assoc]
  cases held : (t.locateLocal id name call.options.anyCase).isSome with
  | false =>
      rw [Option.isSome_eq_false_iff, Option.isNone_iff_eq_none] at held
      constructor
      · rintro ⟨answered, -⟩
        exact ⟨fun _ => by simpa using answered, fun there => by simp [held] at there⟩
      · intro harmless
        exact ⟨Or.inr (harmless.lacking held), nofun⟩
  | true =>
      constructor
      · rintro ⟨-, same⟩
        exact ⟨fun gone => by simp [gone] at held, fun _ => same rfl⟩
      · intro harmless
        exact ⟨Or.inl rfl, fun _ => harmless.holding held⟩

/--
Loading provides each name that a call lists and that the page has something
stored of, exactly if the width of stored names does no harm to it, which it does
to none that is not longer.
-/
theorem provides_iff_of_run {title : String} {expander : Expander}
    (run : Run (ofPage title expander) t) (there : (t.frame? id).isSome) {σ : Type}
    {e : Engine σ} {page : PageId} {state : σ} (gives : e.gateway.Gives page stored state)
    (on : e.features.data = true) (gate : call.options.gateOpen = true) :
    ∃ n t', (e.load call t id page state).1.value = .ok (n, t') ∧
      ∀ name, call.Asks stored name →
        (t.Provides id call name t' ↔ t.WidthHarmless id call stored name) ∧
          (truncateName name = name → t.Provides id call name t') := by
  have separate := separate_of_run (coherent_ofPage title expander).separate run
  rcases gives (call.options.setName.getD "") call.names with ⟨later, ran⟩
  simp only [Engine.load, on, gate, ran]
  cases read : stored.bind (·.filtered (call.options.setName.getD "") call.names) with
  | none =>
      refine ⟨0, t, rfl, fun name asks => ?_⟩
      have nothing : stored.bind (·.stored? call.setKey (truncateName name)) = none := by
        cases stored with
        | none => rfl
        | some r =>
            have found := r.find?_filtered (call.options.setName.getD "") call.names
              (truncateName name)
            rw [Option.bind_some] at read
            rw [read, if_pos (Or.inr (List.mem_map_of_mem asks.1))] at found
            exact found.symm
      rw [VerbCall.Asks, nothing] at asks
      cases asks.2
  | some vars =>
      rcases Option.isSome_iff_exists.1 there with ⟨f, frame⟩
      rcases exists_accepts separate frame call.options.anyCase vars.sorted with
        ⟨n, t', bound, accepts⟩
      have separate' := (rebinds_bindMissing bound).toUpdates.separate separate
      have result : (Engine.bindMissing call.options.anyCase id t vars.toList).run.value =
        .ok (n, t') := bound
      refine ⟨n, t', by simp [result, Except.mapError], fun name asks => ?_⟩
      have iff := accepts.provides_iff separate separate' read asks
      exact ⟨iff, fun short => iff.2 (widthHarmless_of_short asks short)⟩

/-! ### A variable asked for by a name of sixty characters -/

instance (key : Key) : Decidable (t.SameAt t' id key) :=
  decidable_of_iff
    (t'.ref? id key = t.ref? id key ∧ t'.node? id key = t.node? id key ∧
      t'.cached? id key = t.cached? id key)
    ⟨fun same => ⟨same.1, same.2.1, same.2.2⟩,
      fun same => ⟨same.ref?_eq, same.node?_eq, same.cached?_eq⟩⟩

instance : Decidable (t.Provides id call name t') :=
  inferInstanceAs (Decidable (_ ∧ (_ → _)))

/-- A page whose set has a short name and one that is as long as stored names can be. -/
def storedLong : PageRecord where
  pageId := 5
  sets := .ofList
    [(1, { name := "", revId := 1,
           vars := .ofList [(PageRecord.longName 50, .text "1"), ("y", .text "2")] })]
  nextSetId := 2

def memoryEngine : Engine MemoryStore := { features := {}, gateway := MemoryStore.gateway }

def storingLong : MemoryStore := { pages := .ofList [(5, storedLong)] }

def loadLong : VerbCall := { name := "y", extra := [PageRecord.longName 60] }

theorem gives_storedLong : memoryEngine.gateway.Gives 5 (some storedLong) storingLong :=
  fun set names => ⟨storingLong, MemoryStore.run_loadFiltered 5 set names storingLong⟩

/-- The short name is provided. -/
theorem provides_short :
    let page := ofPage "Page" shouting
    loadLong.Asks (some storedLong) "y" ∧
      ∃ n t', (memoryEngine.load loadLong page root 5 storingLong).1.value = .ok (n, t') ∧
        page.Provides root loadLong "y" t' := by
  intro page
  have asks : loadLong.Asks (some storedLong) "y" := by decide +kernel
  have run : Run page page := .refl
  have there : (page.frame? root).isSome := rfl
  rcases @provides_iff_of_run _ _ loadLong _ _ _ run there _ _ _ _ gives_storedLong rfl rfl with
    ⟨n, t', loaded, provides⟩
  exact ⟨asks, n, t', loaded, (provides "y" asks).2 (by decide +kernel)⟩

/-- A page that binds the name of sixty characters. -/
def overlong : Tree :=
  ((Call.set root (PageRecord.longName 60) (.text "m")).run? (ofPage "Page" shouting)).getD
    (ofPage "Page" shouting)

/-- What becomes of a page into which the names are loaded. -/
def loadedLong (t : Tree) : Nat × Tree :=
  (memoryEngine.load loadLong t root 5 storingLong).1.value.toOption.getD (0, t)

theorem load_eq_loadedLong {t : Tree} (counted : (loadedLong t).1 ≠ 0) :
    (memoryEngine.load loadLong t root 5 storingLong).1.value = .ok (loadedLong t) := by
  rw [loadedLong] at counted ⊢
  cases answer : (memoryEngine.load loadLong t root 5 storingLong).1.value with
  | error e =>
      rw [answer] at counted
      exact absurd rfl counted
  | ok loaded => rfl

/--
A page without the name of sixty characters does not get it, and one that has it
gets the stored variable besides, under the name of fifty characters.
-/
theorem long_name_not_provided :
    let page := ofPage "Page" shouting
    let name := PageRecord.longName 60
    loadLong.Asks (some storedLong) name ∧
      ((memoryEngine.load loadLong page root 5 storingLong).1.value = .ok (loadedLong page) ∧
        ((loadedLong page).2.get root name false false).value = none ∧
        ¬ page.Provides root loadLong name (loadedLong page).2) ∧
      (memoryEngine.load loadLong overlong root 5 storingLong).1.value =
        .ok (loadedLong overlong) ∧
      (overlong.get root name false false).value = some "m" ∧
      ((loadedLong overlong).2.get root (PageRecord.longName 50) false false).value = some "1" ∧
      ¬ overlong.Provides root loadLong name (loadedLong overlong).2 :=
  ⟨by decide +kernel, ⟨load_eq_loadedLong (by decide +kernel), by decide +kernel,
    by decide +kernel⟩, load_eq_loadedLong (by decide +kernel), by decide +kernel,
    by decide +kernel, by decide +kernel⟩

end Tree

end TemplateVars
