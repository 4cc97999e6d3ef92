import BundleFramework.Base.Str
import BundleFramework.Lib.NormalPath

/-!
# The paths of the zip library

`FilePath` cuts a path into components from its end, by `DirName` and `BaseName`, which keep a
leading `//` apart from `/`.  What it finds are the names between the slashes:

    getComponents path = names ++ root, and the names, `.` apart, are `components path` backwards
                                                                             (getComponents_spec)

so a path in which `ReferencesParent` sees nothing has no component `..` (`plain_of_not_referencesParent`).
-/

namespace BundleFramework.Libzip

open PathParts NormalPath

/-! ## Algorithm -/

def kCurrentDirectory : Str := ['.']
def kParentDirectory : Str := ['.', '.']
def SEPARATOR : Str := ['/']

def endsWith (str searchFor : Str) : Bool := searchFor.isSuffixOf str

/-- The loop down from `pos`.  The second of two separators stays, unless there was a third one. -/
def stripLoop : Nat → Str → Option Nat → Str
  | pos + 2, path, lastStripped =>
    if path[pos + 1]? = some '/' then
      if pos ≠ 0 ∨ lastStripped = some 3 ∨ path[0]? ≠ some '/' then
        stripLoop (pos + 1) (path.take (pos + 1)) (some (pos + 2))
      else stripLoop (pos + 1) path lastStripped
    else path
  | _, path, _ => path

def stripTrailingSeparatorsInternal (path : Str) : Str := stripLoop path.length path none

def areAllSeparators (input : Str) : Bool := input.all (· = '/')

def dirName (path : Str) : Str :=
  let newPath := stripTrailingSeparatorsInternal path
  let newPath := match strRFindChar newPath '/' with
    | none => []
    | some lastSeparator =>
      if lastSeparator = 0 then newPath.take 1
      else if lastSeparator = 1 ∧ newPath[0]? = some '/' then newPath.take 2
      else newPath.take lastSeparator
  let newPath := stripTrailingSeparatorsInternal newPath
  if newPath.isEmpty then kCurrentDirectory else newPath

def baseName (path : Str) : Str :=
  let newPath := stripTrailingSeparatorsInternal path
  match strRFindChar newPath '/' with
  | none => newPath
  | some lastSeparator => if lastSeparator < newPath.length - 1 then newPath.drop (lastSeparator + 1) else newPath

/-- The loop of `GetComponents`: what it captures, and the path it ends with. -/
def componentsLoop : Nat → Str → List Str × Str
  | 0, current => ([], current)
  | fuel + 1, current =>
    if current = dirName current then ([], current)
    else
      let rest := componentsLoop fuel (dirName current)
      (if areAllSeparators (baseName current) then rest.1 else baseName current :: rest.1, rest.2)

def getComponents (path : Str) : List Str :=
  if path.isEmpty then []
  else
    let captured := componentsLoop path.length path
    let base := baseName captured.2
    if !base.isEmpty && base ≠ kCurrentDirectory then captured.1 ++ [base] else captured.1

/-- `find_first_not_of(". \n\r\t") == npos`. -/
def dotsOnly (component : Str) : Bool := component.all fun c => c ∈ ['.', ' ', '\n', '\r', '\t']

def referencesParent (path : Str) : Bool :=
  (getComponents path).any fun component => dotsOnly component && (strFind component kParentDirectory).isSome

/-! ## Separators at the end -/

theorem stripLoop_body (body : Str) {c : Char} (hc : c ≠ '/') (k : Nat) (lastStripped : Option Nat) :
    stripLoop (body.length + 1 + k) (body ++ c :: List.replicate k '/') lastStripped = body ++ [c] := by
  induction k generalizing lastStripped with
  | zero =>
    cases hb : body.length with
    | zero => rw [List.eq_nil_of_length_eq_zero hb]; rfl
    | succ n =>
      show stripLoop (n + 2) _ _ = _
      rw [stripLoop, if_neg]
      · rfl
      · rw [List.getElem?_append_right (by omega), hb]
        simp [hc]
  | succ k ih =>
    obtain ⟨n, hn⟩ : ∃ n, body.length + k = n := ⟨_, rfl⟩
    rw [show body.length + 1 + (k + 1) = n + 2 by omega, stripLoop, if_pos, if_pos]
    · rw [← ih (some (n + 2)), show n + 1 = body.length + 1 + k by omega]
      congr 1
      rw [List.take_append, List.take_of_length_le (by omega), List.replicate_succ']
      rw [show body.length + 1 + k - body.length = k + 1 by omega, List.take_succ_cons, List.take_left' (by simp)]
    · -- a single separator is taken off, because a name stands before it
      by_cases hzero : n = 0
      · have hb : body = [] := List.eq_nil_of_length_eq_zero (by omega)
        rw [hb]
        exact .inr (.inr (by simpa using hc))
      · exact .inl hzero
    · rw [List.getElem?_append_right (by omega), show n + 1 - body.length = k + 1 by omega, List.getElem?_cons_succ,
        List.getElem?_replicate, if_pos (by omega)]

theorem strip_body (body : Str) {c : Char} (hc : c ≠ '/') (k : Nat) :
    stripTrailingSeparatorsInternal (body ++ c :: List.replicate k '/') = body ++ [c] := by
  have h := stripLoop_body body hc k none
  unfold stripTrailingSeparatorsInternal
  rw [show (body ++ c :: List.replicate k '/').length = body.length + 1 + k by simp; omega]
  exact h

theorem stripLoop_separators (k : Nat) (lastStripped : Option Nat) :
    stripLoop (k + 3) (List.replicate (k + 3) '/') lastStripped = ['/'] := by
  induction k generalizing lastStripped with
  | zero => rfl
  | succ k ih =>
    rw [show k + 1 + 3 = (k + 2) + 2 by omega, stripLoop, if_pos, if_pos (.inl (by omega)), List.take_replicate,
      show min (k + 2 + 1) (k + 2 + 2) = k + 3 by omega]
    · exact ih _
    · rw [List.getElem?_replicate, if_pos (by omega)]

/-- `//` stays, three and more separators become one. -/
theorem strip_separators (n : Nat) : stripTrailingSeparatorsInternal (List.replicate n '/') =
    if n = 0 then [] else if n = 2 then ['/', '/'] else ['/'] := by
  unfold stripTrailingSeparatorsInternal
  rw [List.length_replicate]
  match n with
  | 0 => rfl
  | 1 => rfl
  | 2 => rfl
  | k + 3 => rw [stripLoop_separators, if_neg (by omega), if_neg (by omega)]

/-- A path is made of separators only, or ends in a name, which may have a path above it. -/
inductive Shape : Str → Prop where
  | separators (n : Nat) : Shape (List.replicate n '/')
  | name {name : Str} (k : Nat) (hne : name ≠ []) (hname : '/' ∉ name) : Shape (name ++ List.replicate k '/')
  | below (above : Str) {name : Str} (k : Nat) (hne : name ≠ []) (hname : '/' ∉ name) :
    Shape (above ++ '/' :: name ++ List.replicate k '/')

theorem shape (path : Str) : Shape path := by
  induction path using List.reverseRecOn with
  | nil => exact .separators 0
  | append_singleton path c ih =>
    by_cases hc : c = '/'
    · rw [hc]
      cases ih with
      | separators n =>
        rw [← List.replicate_succ']
        exact .separators (n + 1)
      | name k hne hname =>
        rw [List.append_assoc, ← List.replicate_succ']
        exact .name (k + 1) hne hname
      | below above k hne hname =>
        rw [List.append_assoc, ← List.replicate_succ']
        exact .below above (k + 1) hne hname
    · have hsingle : '/' ∉ [c] := fun hmem => hc (List.mem_singleton.mp hmem).symm
      have hnew : ∀ above : Str, Shape (above ++ ['/'] ++ [c]) := by
        intro above
        have h := Shape.below above 0 (List.cons_ne_nil c []) hsingle
        simpa using h
      cases ih with
      | separators n =>
        cases n with
        | zero => simpa using Shape.name 0 (List.cons_ne_nil c []) hsingle
        | succ n =>
          rw [List.replicate_succ']
          exact hnew _
      | @name name k hne hname =>
        cases k with
        | zero =>
          have h : Shape (name ++ [c] ++ _) := .name 0 (by simp) (by simp [hname, Ne.symm hc])
          simpa using h
        | succ k =>
          rw [List.replicate_succ', ← List.append_assoc]
          exact hnew _
      | @below above name k hne hname =>
        cases k with
        | zero =>
          have h : Shape (above ++ '/' :: (name ++ [c]) ++ _) := .below above 0 (by simp) (by simp [hname, Ne.symm hc])
          simpa using h
        | succ k =>
          rw [List.replicate_succ', ← List.append_assoc]
          exact hnew _

theorem strip_end (pre : Str) {name : Str} (hne : name ≠ []) (hname : '/' ∉ name) (k : Nat) :
    stripTrailingSeparatorsInternal (pre ++ name ++ List.replicate k '/') = pre ++ name := by
  obtain ⟨body, c, rfl⟩ := (List.eq_nil_or_concat' name).resolve_left hne
  have hc : c ≠ '/' := by
    rintro rfl
    exact hname (by simp)
  have h := strip_body (pre ++ body) hc k
  rw [← List.append_assoc, List.append_assoc (pre ++ body), List.singleton_append, h]

theorem strip_name {name : Str} (hne : name ≠ []) (hname : '/' ∉ name) (k : Nat) :
    stripTrailingSeparatorsInternal (name ++ List.replicate k '/') = name := strip_end [] hne hname k

theorem strip_below (above : Str) {name : Str} (hne : name ≠ []) (hname : '/' ∉ name) (k : Nat) :
    stripTrailingSeparatorsInternal (above ++ '/' :: name ++ List.replicate k '/') = above ++ '/' :: name := by
  have h := strip_end (above ++ ['/']) hne hname k
  rwa [List.append_assoc above, List.singleton_append] at h

theorem strip_ne_nil {path : Str} (h : path ≠ []) : stripTrailingSeparatorsInternal path ≠ [] := by
  cases shape path with
  | separators n =>
    rw [strip_separators, if_neg (by rintro rfl; exact h rfl)]
    split <;> exact List.cons_ne_nil _ _
  | @name name k hne hname =>
    have hstrip := strip_name hne hname k
    rwa [hstrip]
  | @below above name k hne hname =>
    have hstrip := strip_below above hne hname k
    rw [hstrip]
    simp

theorem strRFindChar_append {a b : Str} {c : Char} (h : c ∉ b) : strRFindChar (a ++ c :: b) c = some a.length := by
  unfold strRFindChar
  rw [List.reverse_append, List.reverse_cons, List.append_assoc, List.findIdx?_append]
  have hnone : b.reverse.findIdx? (· == c) = none := by
    rw [List.findIdx?_eq_none_iff]
    intro x hx
    simp only [beq_eq_false_iff_ne, ne_eq]
    rintro rfl
    exact h (List.mem_reverse.mp hx)
  rw [hnone, List.singleton_append, List.findIdx?_cons, beq_self_eq_true, if_pos rfl]
  simp only [Option.map_some, Option.none_or, Option.some.injEq, List.length_append, List.length_cons,
    List.length_reverse]
  omega

theorem strRFindChar_eq_none {s : Str} {c : Char} (h : c ∉ s) : strRFindChar s c = none := by
  unfold strRFindChar
  have hnone : s.reverse.findIdx? (· == c) = none := by
    rw [List.findIdx?_eq_none_iff]
    intro x hx
    simp only [beq_eq_false_iff_ne, ne_eq]
    rintro rfl
    exact h (List.mem_reverse.mp hx)
  rw [hnone]
  rfl

theorem baseName_name {name : Str} (hne : name ≠ []) (hname : '/' ∉ name) (k : Nat) :
    baseName (name ++ List.replicate k '/') = name := by
  have hstrip := strip_name hne hname k
  unfold baseName
  simp only
  rw [hstrip, strRFindChar_eq_none hname]

theorem baseName_below (above : Str) {name : Str} (hne : name ≠ []) (hname : '/' ∉ name) (k : Nat) :
    baseName (above ++ '/' :: name ++ List.replicate k '/') = name := by
  have hstrip := strip_below above hne hname k
  unfold baseName
  simp only
  rw [hstrip, strRFindChar_append hname]
  simp only
  rw [if_pos]
  · rw [← List.singleton_append, ← List.append_assoc, List.drop_left' (by simp)]
  · have hlen := List.length_pos_of_ne_nil hne
    simp only [List.length_append, List.length_cons]
    omega

theorem dirName_name {name : Str} (hne : name ≠ []) (hname : '/' ∉ name) (k : Nat) :
    dirName (name ++ List.replicate k '/') = kCurrentDirectory := by
  have hstrip := strip_name hne hname k
  unfold dirName
  simp only
  rw [hstrip, strRFindChar_eq_none hname]
  rfl

/-- The path above a name: at the root it is the separator, or both. -/
theorem dirName_below (above : Str) {name : Str} (hne : name ≠ []) (hname : '/' ∉ name) (k : Nat) :
    dirName (above ++ '/' :: name ++ List.replicate k '/') =
      if above = [] then ['/'] else if above = ['/'] then ['/', '/'] else stripTrailingSeparatorsInternal above := by
  have hstrip := strip_below above hne hname k
  unfold dirName
  simp only
  rw [hstrip, strRFindChar_append hname]
  simp only
  match above with
  | [] => rfl
  | [c] =>
    by_cases hc : c = '/'
    · rw [hc]
      rfl
    · have hone : stripTrailingSeparatorsInternal [c] = [c] := rfl
      simp [hc, hone]
  | a :: b :: above =>
    have hlen : (a :: b :: above).length = above.length + 2 := rfl
    have hstripped := strip_ne_nil (List.cons_ne_nil a (b :: above))
    rw [if_neg (show ¬ (a :: b :: above).length = 0 by omega), if_neg (show ¬ ((a :: b :: above).length = 1 ∧
        (a :: b :: above ++ '/' :: name)[0]? = some '/') from fun h => absurd h.1 (by omega)), List.take_left,
      if_neg (show ¬ (stripTrailingSeparatorsInternal (a :: b :: above)).isEmpty = true by simpa using hstripped),
      if_neg (List.cons_ne_nil _ _), if_neg (by simp)]

/-! ## Components -/

theorem components_separators (n : Nat) : components (List.replicate n '/') = [] := by
  induction n with
  | zero => rfl
  | succ n ih => rw [List.replicate_succ, ← List.nil_append ('/' :: _), components_append_slash, ih]; rfl

theorem components_trailing (path : Str) (k : Nat) : components (path ++ List.replicate k '/') = components path := by
  cases k with
  | zero => rw [List.replicate_zero, List.append_nil]
  | succ k => rw [List.replicate_succ, components_append_slash, components_separators, List.append_nil]

theorem components_strip (path : Str) : components (stripTrailingSeparatorsInternal path) = components path := by
  cases shape path with
  | separators n =>
    rw [strip_separators, components_separators]
    split
    · rfl
    · split <;> rfl
  | @name name k hne hname =>
    have hstrip := strip_name hne hname k
    rw [hstrip, components_trailing]
  | @below above name k hne hname =>
    have hstrip := strip_below above hne hname k
    rw [hstrip, components_trailing]

/-- A name, which names nothing if it is the dot. -/
theorem components_name {name : Str} (hne : name ≠ []) (hname : '/' ∉ name) :
    components name = [name].filter (· ≠ kCurrentDirectory) := by
  unfold components
  rw [List.splitOn_eq_singleton hname]
  by_cases hdot : name = kCurrentDirectory
  · rw [hdot]
    rfl
  · rw [List.filter_cons_of_pos (by simpa using ⟨hne, hdot⟩), List.filter_cons_of_pos (by simpa using hdot)]
    rfl

/-- What the loop has captured of a path: its names from the end, and the root it came to. -/
structure Captured (path : Str) (captured : List Str × Str) : Prop where
  names : ∀ name ∈ captured.1, name ≠ [] ∧ '/' ∉ name
  components : (captured.1.reverse.filter fun name => name ≠ kCurrentDirectory) = components path
  root : captured.2 = kCurrentDirectory ∧ path.head? ≠ some '/' ∨
    (captured.2 = ['/'] ∨ captured.2 = ['/', '/']) ∧ path.head? = some '/'

theorem componentsLoop_current (fuel : Nat) : componentsLoop fuel kCurrentDirectory = ([], kCurrentDirectory) := by
  cases fuel with
  | zero => rfl
  | succ fuel => rfl

theorem not_areAllSeparators {name : Str} (hne : name ≠ []) (hname : '/' ∉ name) : areAllSeparators name = false := by
  cases name with
  | nil => exact absurd rfl hne
  | cons c name =>
    have hc : c ≠ '/' := by
      rintro rfl
      exact hname List.mem_cons_self
    unfold areAllSeparators
    simp [hc]

theorem strip_length_le (path : Str) : (stripTrailingSeparatorsInternal path).length ≤ path.length := by
  cases shape path with
  | separators n =>
    rw [strip_separators, List.length_replicate]
    split
    · simp
    · split
      · simp; omega
      · simp; omega
  | @name name k hne hname =>
    have hstrip := strip_name hne hname k
    rw [hstrip]
    simp
  | @below above name k hne hname =>
    have hstrip := strip_below above hne hname k
    rw [hstrip]
    simp

theorem strip_head? {path : Str} : (stripTrailingSeparatorsInternal path).head? = path.head? := by
  cases shape path with
  | separators n =>
    rw [strip_separators]
    match n with
    | 0 => rfl
    | 1 => rfl
    | 2 => rfl
    | n + 3 => rfl
  | @name name k hne hname =>
    have hstrip := strip_name hne hname k
    rw [hstrip, List.head?_append_of_ne_nil _ hne]
  | @below above name k hne hname =>
    have hstrip := strip_below above hne hname k
    rw [hstrip, List.head?_append_of_ne_nil (above ++ '/' :: name) (by simp)]

/-- What is above a name is shorter, has the same names and the same top. -/
theorem dirName_below_spec (above : Str) {name : Str} (hne : name ≠ []) (hname : '/' ∉ name) (k : Nat) :
    dirName (above ++ '/' :: name ++ List.replicate k '/') ≠ [] ∧
      (dirName (above ++ '/' :: name ++ List.replicate k '/')).length < (above ++ '/' :: name).length ∧
      components (dirName (above ++ '/' :: name ++ List.replicate k '/')) = components above ∧
      (dirName (above ++ '/' :: name ++ List.replicate k '/')).head? = (above ++ '/' :: name).head? := by
  have hlen := List.length_pos_of_ne_nil hne
  rw [dirName_below above hne hname, List.length_append, List.length_cons]
  split
  · next h =>
    rw [h]
    exact ⟨List.cons_ne_nil _ _, by simp; omega, rfl, rfl⟩
  · next h =>
    split
    · next h' =>
      rw [h']
      exact ⟨List.cons_ne_nil _ _, by simp; omega, rfl, rfl⟩
    · refine ⟨strip_ne_nil h, ?_, components_strip above, ?_⟩
      · have := strip_length_le above
        omega
      · rw [strip_head?, List.head?_append_of_ne_nil _ h]

theorem dirName_separators {n : Nat} (h : n ≠ 0) :
    dirName (List.replicate n '/') = if n = 2 then ['/', '/'] else ['/'] := by
  unfold dirName
  simp only
  rw [strip_separators, if_neg h]
  by_cases htwo : n = 2
  · simp only [if_pos htwo]
    rfl
  · simp only [if_neg htwo]
    rfl

theorem componentsLoop_separators (fuel n : Nat) (h : n ≠ 0) :
    componentsLoop (fuel + 1) (List.replicate n '/') = ([], if n = 2 then ['/', '/'] else ['/']) := by
  have hdir := dirName_separators h
  have hroot : ∀ root : Str, root = ['/'] ∨ root = ['/', '/'] → componentsLoop fuel root = ([], root) := by
    rintro root (rfl | rfl)
    all_goals
      cases fuel with
      | zero => rfl
      | succ fuel => rfl
  rw [componentsLoop]
  split
  · next heq => rw [← hdir, ← heq]
  · have hbase : areAllSeparators (baseName (List.replicate n '/')) = true := by
      unfold baseName
      simp only
      rw [strip_separators, if_neg h]
      by_cases htwo : n = 2
      · simp only [if_pos htwo]
        rfl
      · simp only [if_neg htwo]
        rfl
    simp only
    rw [if_pos hbase, hdir, hroot]
    split
    · exact .inr rfl
    · exact .inl rfl

theorem componentsLoop_spec (fuel : Nat) {path : Str} (hne : path ≠ []) (hfuel : path.length ≤ fuel) :
    Captured path (componentsLoop fuel path) := by
  induction fuel generalizing path with
  | zero => exact absurd (List.eq_nil_of_length_eq_zero (by omega)) hne
  | succ fuel ih =>
    cases shape path with
    | separators n =>
      have hn : n ≠ 0 := by
        rintro rfl
        exact hne rfl
      obtain ⟨m, rfl⟩ := Nat.exists_eq_succ_of_ne_zero hn
      rw [componentsLoop_separators fuel (m + 1) hn]
      refine ⟨fun name hmem => (List.not_mem_nil hmem).elim, (components_separators _).symm, .inr ⟨?_, rfl⟩⟩
      split
      · exact .inr rfl
      · exact .inl rfl
    | @name name k hname hslash =>
      have hhead : (name ++ List.replicate k '/').head? ≠ some '/' := by
        rw [List.head?_append_of_ne_nil _ hname]
        intro h
        exact hslash (List.mem_of_mem_head? h)
      rw [componentsLoop, dirName_name hname hslash]
      split
      · next heq => exact ⟨fun _ hmem => (List.not_mem_nil hmem).elim, by rw [heq]; rfl, .inl ⟨heq, hhead⟩⟩
      · simp only
        rw [componentsLoop_current, baseName_name hname hslash, if_neg (by rw [not_areAllSeparators hname hslash]; nofun)]
        refine ⟨fun c hc => ?_, ?_, .inl ⟨rfl, hhead⟩⟩
        · rw [List.mem_singleton.mp hc]
          exact ⟨hname, hslash⟩
        · rw [components_trailing, components_name hname hslash]
          rfl
    | @below above name k hname hslash =>
      obtain ⟨hdir, hlen, hcomp, hhead⟩ := dirName_below_spec above hname hslash k
      have hbase := baseName_below above hname hslash k
      have htrail : (above ++ '/' :: name).length ≤ (above ++ '/' :: name ++ List.replicate k '/').length := by
        exact (List.sublist_append_left _ _).length_le
      have hrest := ih hdir (by omega)
      rw [componentsLoop, if_neg]
      · simp only
        rw [hbase, if_neg (by rw [not_areAllSeparators hname hslash]; nofun)]
        refine ⟨fun c hc => ?_, ?_, ?_⟩
        · rcases List.mem_cons.mp hc with rfl | hc
          · exact ⟨hname, hslash⟩
          · exact hrest.names c hc
        · rw [List.reverse_cons, List.filter_append, hrest.components, hcomp, components_trailing,
            components_append_slash, components_name hname hslash]
        · rw [List.head?_append_of_ne_nil (above ++ '/' :: name) (by simp), ← hhead]
          exact hrest.root
      · intro heq
        rw [← heq] at hlen
        omega

/-- **The components of a path are its names**, backwards, and its root. -/
theorem getComponents_spec (path : Str) : ∃ names root, getComponents path = names ++ root ∧
    (∀ name ∈ names, name ≠ [] ∧ '/' ∉ name) ∧
    (names.reverse.filter fun name => name ≠ kCurrentDirectory) = components path ∧
    (root = [] ∧ path.head? ≠ some '/' ∨ (root = [['/']] ∨ root = [['/', '/']]) ∧ path.head? = some '/') := by
  by_cases hne : path = []
  · rw [hne]
    exact ⟨[], [], rfl, fun _ hmem => (List.not_mem_nil hmem).elim, rfl, .inl ⟨rfl, nofun⟩⟩
  · obtain ⟨hnames, hcomp, hroot⟩ := componentsLoop_spec path.length hne (le_refl _)
    unfold getComponents
    rw [if_neg (by simpa using hne)]
    simp only
    rcases hroot with ⟨hcur, hhead⟩ | ⟨hcur | hcur, hhead⟩
    · rw [hcur]
      exact ⟨_, [], (List.append_nil _).symm, hnames, hcomp, .inl ⟨rfl, hhead⟩⟩
    · rw [hcur]
      exact ⟨_, [['/']], rfl, hnames, hcomp, .inr ⟨.inl rfl, hhead⟩⟩
    · rw [hcur]
      exact ⟨_, [['/', '/']], rfl, hnames, hcomp, .inr ⟨.inr rfl, hhead⟩⟩

theorem plain_of_not_referencesParent {path : Str} (h : referencesParent path = false) : dotDot ∉ components path := by
  obtain ⟨names, root, hget, -, hcomp, -⟩ := getComponents_spec path
  intro hmem
  rw [← hcomp] at hmem
  have hname : dotDot ∈ names := List.mem_reverse.mp (List.mem_of_mem_filter hmem)
  have hnone := List.any_eq_false.mp h dotDot (by rw [hget]; exact List.mem_append_left _ hname)
  exact hnone rfl

end BundleFramework.Libzip
