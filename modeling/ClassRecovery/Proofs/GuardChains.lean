import ClassRecovery.Attempt
import ClassRecovery.Chain
import ClassRecovery.Proofs.Naming

namespace ClassRecovery

/-!
# Attempts are made exactly at chains of guards

Following a chain and describing one come to the same.  What a chain leads to is
therefore determined by the statements: no two chains open the same list, and the
names along the one that does are those of the class that is read.  An attempt says
something exactly where a chain opens, and it consumes a guard only behind the guards
of all packages above it.
-/

open Chain

/-- Whether a body creates its namespace can be decided. -/
theorem createsNamespace_eq_true_iff (tested : Path) (body : List Node) :
    createsNamespace tested body = true ↔ Creates tested body := by
  have isNew : ∀ value : Node, value.isNewObject = true ↔
      ∃ type arguments, value = .newObject type arguments := by
    intro value
    cases value with
    | newObject type arguments => exact iff_of_true rfl ⟨type, arguments, rfl⟩
    | _ => exact iff_of_false Bool.false_ne_true (by rintro ⟨type, arguments, same⟩; cases same)
  constructor
  · intro creates
    unfold createsNamespace at creates
    split at creates
    · next write =>
        rw [Bool.and_eq_true, beq_iff_eq] at creates
        cases written : write.writtenValue? with
        | none =>
            rw [written] at creates
            cases creates.1
        | some value =>
            rw [written] at creates
            rcases (isNew value).mp creates.1 with ⟨type, arguments, rfl⟩
            exact ⟨write, type, arguments, rfl, (write.writtenValue?_eq_some_iff _).mp written,
              creates.2⟩
    · cases creates
  · rintro ⟨write, type, arguments, rfl, writes, assigned⟩
    rw [createsNamespace, (write.writtenValue?_eq_some_iff _).mpr writes, assigned]
    exact Bool.and_eq_true_iff.mpr ⟨rfl, beq_self_eq_true _⟩

namespace Chain

/-! ## Guards in a row -/

theorem Guard.ne_pop {path : Path} {body alternative : List Node} {guard : Node}
    (tests : Guard path body alternative guard) : guard ≠ .pop := by
  cases tests
  exact Node.noConfusion

/-- The guards of packages do not begin with a discarded value, so behind the guard in
front of them only its own is skipped. -/
theorem PackageGuards.head?_append_ne_pop {reached names : Path} {guards rest : List Node}
    (packages : PackageGuards reached names guards) (noPop : rest.head? ≠ some .pop) :
    (guards ++ rest).head? ≠ some .pop := by
  cases packages with
  | nil => exact noPop
  | cons tests creates atMostOne deeper => exact fun pop => tests.ne_pop (Option.some.inj pop)

/-- Every guard among those of packages stands behind the guards of the packages above
the one that it tests. -/
theorem PackageGuards.of_append {reached names : Path} {guards : List Node}
    (packages : PackageGuards reached names guards) {front back body alternative : List Node}
    {tested : Node} (split : guards = front ++ .branch (.not tested) body alternative :: back) :
    ∃ above name, PackageGuards reached above front ∧
      tested.path? = some (reached ++ (above ++ [name])) := by
  induction packages generalizing front with
  | nil reached => exact absurd split.symm (List.append_ne_nil_of_right_ne_nil _
      (List.cons_ne_nil _ _))
  | @cons reached names name guard inner otherwise discarded rest tests creates atMostOne deeper
      hypothesis =>
      cases front with
      | nil =>
          cases (List.cons.inj split).1
          cases tests with
          | intro reads => exact ⟨[], name, .nil reached, reads⟩
      | cons first front =>
          rcases List.cons.inj split with ⟨rfl, behind⟩
          -- A discarded value is no guard, so the guard in question stands behind it.
          have later : ∃ left, front = discarded ++ left ∧
              rest = left ++ .branch (.not tested) body alternative :: back := by
            rcases atMostOne with rfl | rfl
            · exact ⟨front, rfl, behind⟩
            · cases front with
              | nil => cases (List.cons.inj behind).1
              | cons discard left =>
                  rcases List.cons.inj behind with ⟨rfl, whole⟩
                  exact ⟨left, rfl, whole⟩
          rcases later with ⟨left, rfl, whole⟩
          rcases hypothesis whole with ⟨above, last, inFront, reads⟩
          refine ⟨name :: above, last, .cons tests creates atMostOne inFront, ?_⟩
          rw [reads, List.append_assoc, List.singleton_append, List.cons_append]

/-- A package guard in front of a chain makes it longer. -/
theorem Opens.cons {reached names : Path} {name : String} {guard : Node}
    {body alternative inner otherwise discarded rest : List Node} {offset : Nat}
    (tests : Guard (reached ++ [name]) inner otherwise guard)
    (creates : Creates (reached ++ [name]) inner) (atMostOne : discarded = [] ∨ discarded = [.pop])
    (opens : Opens (reached ++ [name]) rest names offset body alternative) :
    Opens reached (guard :: (discarded ++ rest)) (name :: names)
      (1 + discarded.length + offset) body alternative := by
  cases opens with
  | @intro package last guards after final split place named packages testsClass noCreation =>
      have path : reached ++ [name] ++ names = reached ++ name :: names := by
        rw [List.append_assoc, List.singleton_append]
      rw [path] at testsClass noCreation
      have whole : guard :: (discarded ++ rest) =
          guard :: (discarded ++ guards) ++ final :: after := by
        rw [split, List.cons_append, List.append_assoc]
      have length : 1 + discarded.length + offset = (guard :: (discarded ++ guards)).length := by
        rw [place, List.length_cons, List.length_append]
        omega
      have chain : name :: names = name :: package ++ [last] := by
        rw [named, List.cons_append]
      exact .intro whole length chain (.cons tests creates atMostOne packages) testsClass
        noCreation

/-- Whatever guard stands in a chain, all the packages above the path that it tests
have their guards directly in front of it. -/
theorem Opens.packageGuards_of_append {reached names : Path} {statements : List Node}
    {offset : Nat} {body alternative : List Node}
    (opens : Opens reached statements names offset body alternative)
    {front back inner otherwise : List Node} {tested : Node}
    (split : statements = front ++ .branch (.not tested) inner otherwise :: back)
    (inside : front.length ≤ offset) :
    ∃ above name, PackageGuards reached above front ∧
      tested.path? = some (reached ++ (above ++ [name])) := by
  cases opens with
  | @intro package last guards after guard whole place named packages tests noCreation =>
      -- The guard of the class itself stands behind all the guards of its packages.
      have ofClass (whole : front = guards)
          (same : guard = .branch (.not tested) inner otherwise) :
          ∃ above name, PackageGuards reached above front ∧
            tested.path? = some (reached ++ (above ++ [name])) := by
        rw [whole]
        cases tests with
        | intro reads =>
            cases same
            exact ⟨package, last, packages, by rw [reads, named]⟩
      rcases List.append_eq_append_iff.mp (whole.symm.trans split) with
        ⟨more, longer, behind⟩ | ⟨more, shorter, behind⟩
      · have nothing : more = [] := by
          have length := congrArg List.length longer
          rw [List.length_append] at length
          exact List.eq_nil_of_length_eq_zero (by omega)
        rw [nothing, List.append_nil] at longer
        rw [nothing] at behind
        exact ofClass longer (List.cons.inj behind).1
      · cases more with
        | nil =>
            rw [List.append_nil] at shorter
            exact ofClass shorter.symm (List.cons.inj behind).1.symm
        | cons first more =>
            rcases List.cons.inj behind with ⟨rfl, _⟩
            exact packages.of_append shorter

end Chain

namespace Site

/-! ## Following a chain -/

/-- The guards of packages lead as far as their names. -/
theorem follow_append {reached names : Path} {guards : List Node}
    (packages : PackageGuards reached names guards) {rest : List Node}
    (noPop : rest.head? ≠ some .pop) (offset : Nat) :
    follow reached offset (guards ++ rest) =
      follow (reached ++ names) (offset + guards.length) rest := by
  induction packages generalizing offset with
  | nil reached => rw [List.append_nil]; rfl
  | @cons reached names name guard body alternative discarded left tests creates atMostOne deeper
      hypothesis =>
      have decided := (createsNamespace_eq_true_iff _ _).mpr creates
      have path : reached ++ name :: names = reached ++ [name] ++ names := by
        rw [List.append_assoc, List.singleton_append]
      cases tests with
      | @intro tested reads =>
          have hasName := (Node.memberOf?_eq_some_iff _ _ _).mpr reads
          rcases atMostOne with rfl | rfl
          · have later := deeper.head?_append_ne_pop noPop
            rw [List.nil_append, List.cons_append, follow_of_creates hasName decided later,
              hypothesis, path, List.length_cons]
            congr 1
            omega
          · rw [List.singleton_append, List.cons_append, List.cons_append,
              follow_of_creates_pop hasName decided, hypothesis, path, List.length_cons,
              List.length_cons]
            congr 1
            omega

/-- Following a chain from what it has reached finds the class exactly when the
statements open with a chain for it. -/
theorem follow_eq_some_iff (reached : Path) (offset : Nat) (statements : List Node)
    (site : Site) :
    follow reached offset statements = some site ↔
      ∃ names inner, Opens reached statements names inner site.body site.alternative ∧
        site.path = (reached ++ names).tail ∧ site.offset = offset + inner := by
  constructor
  · intro found
    -- What is found behind the guard of a package belongs to a chain that is shorter by
    -- this guard, so the two cases with such a guard differ only in what is discarded.
    induction reached, offset, statements using follow.induct with
    | case1 reached offset tested body alternative rest noName =>
        rw [follow_of_memberOf?_eq_none noName] at found
        cases found
    | case2 reached offset tested body alternative name hasName creates rest hypothesis =>
        rw [follow_of_creates_pop hasName creates] at found
        rcases hypothesis found with ⟨names, inner, opens, path, place⟩
        have reads := (Node.memberOf?_eq_some_iff _ _ _).mp hasName
        have decided := (createsNamespace_eq_true_iff _ _).mp creates
        refine ⟨name :: names, _, opens.cons (.intro reads) decided (Or.inr rfl), ?_, ?_⟩
        · rw [path, List.append_assoc, List.singleton_append]
        · rw [place, List.length_singleton]
          omega
    | case3 reached offset tested body alternative name hasName creates rest noPop hypothesis =>
        have unpopped : rest.head? ≠ some .pop := head?_ne_some_of_ne_cons noPop
        rw [follow_of_creates hasName creates unpopped] at found
        rcases hypothesis found with ⟨names, inner, opens, path, place⟩
        have reads := (Node.memberOf?_eq_some_iff _ _ _).mp hasName
        have decided := (createsNamespace_eq_true_iff _ _).mp creates
        refine ⟨name :: names, _, opens.cons (.intro reads) decided (Or.inl rfl), ?_, ?_⟩
        · rw [path, List.append_assoc, List.singleton_append]
        · rw [place, List.length_nil]
          omega
    | case4 reached offset tested body alternative rest name hasName creates =>
        have decided := Bool.eq_false_iff.mpr creates
        rw [follow_of_not_creates hasName decided] at found
        cases found
        have reads := (Node.memberOf?_eq_some_iff _ _ _).mp hasName
        have alone : [name] = [] ++ [name] := rfl
        exact ⟨[name], 0, .intro (List.nil_append _).symm rfl alone (.nil reached) (.intro reads)
          (mt (createsNamespace_eq_true_iff _ _).mpr creates), rfl, rfl⟩
    | case5 statements reached offset noGuard =>
        rw [follow_of_not_guard fun tested body alternative =>
          head?_ne_some_of_ne_cons (noGuard tested body alternative)] at found
        cases found
  · rintro ⟨names, inner, opens, path, place⟩
    cases opens with
    | @intro package name guards after guard split length named packages tests noCreation =>
        have noPop : (guard :: after).head? ≠ some .pop :=
          fun pop => tests.ne_pop (Option.some.inj pop)
        have whole : reached ++ names = reached ++ package ++ [name] := by
          rw [named, List.append_assoc]
        rw [split, follow_append packages noPop]
        cases tests with
        | intro reads =>
            rw [whole] at reads noCreation path
            have hasName := (Node.memberOf?_eq_some_iff _ _ _).mpr reads
            have decided : createsNamespace (reached ++ package ++ [name]) site.body = false :=
              Bool.eq_false_iff.mpr (mt (createsNamespace_eq_true_iff _ _).mp noCreation)
            rw [follow_of_not_creates hasName decided, ← path, ← length, ← place]

theorem find?_eq_some_iff (options : Options) (statements : List Node) (site : Site) :
    find? options statements = some site ↔
      Opens [options.rootNamespace] statements site.path site.offset site.body
        site.alternative := by
  constructor
  · intro found
    rcases (follow_eq_some_iff _ _ _ _).mp found with ⟨names, inner, opens, path, place⟩
    rw [Nat.zero_add] at place
    rw [path, place]
    exact opens
  · intro opens
    exact (follow_eq_some_iff _ _ _ _).mpr ⟨site.path, site.offset, opens, rfl,
      (Nat.zero_add _).symm⟩

end Site

/-- A list of statements opens with no more than one chain. -/
theorem Chain.Opens.unique {options : Options} {statements : List Node} {path other : Path}
    {offset place : Nat} {body alternative inner otherwise : List Node}
    (first : Opens [options.rootNamespace] statements path offset body alternative)
    (second : Opens [options.rootNamespace] statements other place inner otherwise) :
    other = path ∧ place = offset ∧ inner = body ∧ otherwise = alternative := by
  have found := (Site.find?_eq_some_iff options statements ⟨path, offset, body, alternative⟩).mpr
    first
  have again := (Site.find?_eq_some_iff options statements ⟨other, place, inner, otherwise⟩).mpr
    second
  exact Site.mk.inj (Option.some.inj (again.symm.trans found))

namespace Attempt

/-! ## What comes of an attempt -/

theorem ofSite_ne_noMatch (options : Options) (site : Site) : ofSite options site ≠ .noMatch := by
  unfold ofSite
  split
  · exact Attempt.noConfusion
  · split <;> exact Attempt.noConfusion

/-- A guard's alternative is no obstacle if it is empty or may be kept. -/
def Admits (options : Options) (alternative : List Node) : Prop :=
  alternative = [] ∨ options.preserveAlternative = true

theorem ofSite_of_admits {options : Options} {site : Site}
    (admits : Admits options site.alternative) :
    ofSite options site =
      match Declaration.ofBody options site.path site.body with
      | .ok declaration => .recognised site.offset declaration site.alternative
      | .error cause => .rejected cause := by
  have unobstructed : ¬ (!site.alternative.isEmpty && !options.preserveAlternative) = true := by
    rw [Bool.not_eq_true]
    rcases admits with empty | preserves
    · rw [empty]; rfl
    · rw [preserves]; exact Bool.and_false _
  unfold ofSite
  exact if_neg unobstructed

theorem ofSite_of_not_admits {options : Options} {site : Site}
    (refuses : ¬ Admits options site.alternative) :
    ofSite options site = .rejected (.mismatch .alternativeNotEmpty) := by
  have obstructed : (!site.alternative.isEmpty && !options.preserveAlternative) = true := by
    rw [Bool.and_eq_true, Bool.not_eq_true', Bool.not_eq_true']
    constructor
    · exact Bool.eq_false_iff.mpr fun empty => refuses (Or.inl (List.isEmpty_iff.mp empty))
    · exact Bool.eq_false_iff.mpr fun preserves => refuses (Or.inr preserves)
  rw [ofSite, if_pos obstructed]

theorem ofSite_eq_recognised_iff (options : Options) (site : Site) (offset : Nat)
    (declaration : Declaration) (kept : List Node) :
    ofSite options site = .recognised offset declaration kept ↔
      offset = site.offset ∧ kept = site.alternative ∧ Admits options site.alternative ∧
        Declaration.ofBody options site.path site.body = .ok declaration := by
  by_cases admits : Admits options site.alternative
  · rw [ofSite_of_admits admits]
    cases read : Declaration.ofBody options site.path site.body with
    | error cause =>
        apply iff_of_false
        · exact Attempt.noConfusion
        · rintro ⟨_, _, _, accepted⟩
          cases accepted
    | ok found =>
        constructor
        · intro same
          cases same
          exact ⟨rfl, rfl, admits, rfl⟩
        · rintro ⟨rfl, rfl, _, accepted⟩
          cases accepted
          rfl
  · rw [ofSite_of_not_admits admits]
    exact iff_of_false Attempt.noConfusion fun fits => admits fits.2.2.1

theorem ofSite_eq_rejected_iff (options : Options) (site : Site) (cause : Rejection) :
    ofSite options site = .rejected cause ↔
      (¬ Admits options site.alternative ∧ cause = .mismatch .alternativeNotEmpty) ∨
        (Admits options site.alternative ∧
          Declaration.ofBody options site.path site.body = .error cause) := by
  by_cases admits : Admits options site.alternative
  · rw [ofSite_of_admits admits]
    cases read : Declaration.ofBody options site.path site.body with
    | error found =>
        constructor
        · intro same
          cases same
          exact Or.inr ⟨admits, rfl⟩
        · rintro (⟨refuses, _⟩ | ⟨_, same⟩)
          · exact absurd admits refuses
          · cases same
            rfl
    | ok declaration =>
        apply iff_of_false
        · exact Attempt.noConfusion
        · rintro (⟨refuses, _⟩ | ⟨_, same⟩)
          · exact refuses admits
          · cases same
  · rw [ofSite_of_not_admits admits]
    constructor
    · intro same
      cases same
      exact Or.inl ⟨admits, rfl⟩
    · rintro (⟨_, rfl⟩ | ⟨unobstructed, _⟩)
      · rfl
      · exact absurd unobstructed admits

theorem ofStatements_of_opens {options : Options} {statements : List Node} {path : Path}
    {offset : Nat} {body alternative : List Node}
    (opens : Opens [options.rootNamespace] statements path offset body alternative) :
    ofStatements options statements = ofSite options ⟨path, offset, body, alternative⟩ := by
  have found := (Site.find?_eq_some_iff options statements ⟨path, offset, body, alternative⟩).mpr
    opens
  rw [ofStatements, found]

theorem ofStatements_ne_noMatch_iff (options : Options) (statements : List Node) :
    ofStatements options statements ≠ .noMatch ↔
      ∃ path offset body alternative,
        Opens [options.rootNamespace] statements path offset body alternative := by
  constructor
  · intro something
    cases found : Site.find? options statements with
    | none =>
        rw [ofStatements, found] at something
        exact absurd rfl something
    | some site => exact ⟨_, _, _, _, (Site.find?_eq_some_iff _ _ _).mp found⟩
  · rintro ⟨path, offset, body, alternative, opens⟩
    rw [ofStatements_of_opens opens]
    exact ofSite_ne_noMatch options _

/-- What is recognised is the class of a chain, and its alternative could be kept. -/
theorem opens_of_recognised {options : Options} {statements : List Node} {offset : Nat}
    {declaration : Declaration} {alternative : List Node}
    (success : ofStatements options statements = .recognised offset declaration alternative) :
    ∃ path body, Opens [options.rootNamespace] statements path offset body alternative ∧
      Admits options alternative ∧ Declaration.ofBody options path body = .ok declaration := by
  have something : ofStatements options statements ≠ .noMatch := by
    rw [success]
    exact Attempt.noConfusion
  rcases (ofStatements_ne_noMatch_iff options statements).mp something with
    ⟨path, place, body, kept, opens⟩
  rw [ofStatements_of_opens opens] at success
  rcases (ofSite_eq_recognised_iff _ _ _ _ _).mp success with ⟨rfl, rfl, admits, accepted⟩
  exact ⟨path, body, opens, admits, accepted⟩

/-- An attempt says something exactly where the statements open with a chain for some
class.  There is one such chain at most, and it decides the outcome: the class is
recognised exactly when the alternative of its guard is no obstacle and its body is
accepted under the names of the chain.  Among the statements that a recognised
declaration replaces, a guard stands nowhere but directly behind the guards of all the
packages above what it tests, in their order. -/
theorem atIndex_ne_noMatch_iff_opens (options : Options) (statements : List Node)
    (index : Nat) :
    (atIndex options statements index ≠ .noMatch ↔
      ∃ path offset body alternative,
        Opens [options.rootNamespace] (statements.drop index) path offset body alternative) ∧
    (∀ path offset body alternative,
      Opens [options.rootNamespace] (statements.drop index) path offset body alternative →
        (∀ other place inner otherwise,
          Opens [options.rootNamespace] (statements.drop index) other place inner otherwise →
            other = path ∧ place = offset ∧ inner = body ∧ otherwise = alternative) ∧
        (∀ place declaration kept,
          atIndex options statements index = .recognised place declaration kept ↔
            place = offset ∧ kept = alternative ∧ Admits options alternative ∧
              Declaration.ofBody options path body = .ok declaration) ∧
        (∀ cause, atIndex options statements index = .rejected cause ↔
          (¬ Admits options alternative ∧ cause = .mismatch .alternativeNotEmpty) ∨
            (Admits options alternative ∧ Declaration.ofBody options path body = .error cause))) ∧
    (∀ offset declaration alternative,
      atIndex options statements index = .recognised offset declaration alternative →
        ∀ front guard back package name body otherwise,
          statements.drop index = front ++ guard :: back → front.length ≤ offset →
            Guard (options.rootNamespace :: (package ++ [name])) body otherwise guard →
              PackageGuards [options.rootNamespace] package front) := by
  rw [atIndex_eq]
  refine ⟨ofStatements_ne_noMatch_iff options _, ?_, ?_⟩
  · intro path offset body alternative opens
    rw [ofStatements_of_opens opens]
    exact ⟨fun _ _ _ _ other => opens.unique other,
      fun place declaration kept => ofSite_eq_recognised_iff options _ place declaration kept,
      fun cause => ofSite_eq_rejected_iff options _ cause⟩
  · intro offset declaration alternative success front guard back package name body otherwise
      split inside tests
    rcases opens_of_recognised success with ⟨path, inner, opens, _, _⟩
    cases tests with
    | intro reads =>
        rcases opens.packageGuards_of_append split inside with ⟨above, last, packages, same⟩
        have names : package ++ [name] = above ++ [last] :=
          (List.cons.inj (Option.some.inj (reads.symm.trans same))).2
        rw [(List.append_inj' names rfl).1]
        exact packages

end Attempt

end ClassRecovery
