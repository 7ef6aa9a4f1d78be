import LanguageWorker.Proofs.Files.Tree

namespace LanguageWorker.FileTree

/-! Ways through a tree. A walk goes from folder to folder and from links to where they lead, and
all it depends on is what it sees on the way. So a tree can be changed anywhere else, and what a
path leads to stays the same. -/

/-! ## Places -/

theorem at?_append (root : FileTree) (place way : List String) :
    root.at? (place ++ way) = root.at? place >>= (at? · way) := by
  fun_induction at? root place with
  | case1 tree => rfl
  | case2 entries name path induction =>
      rw [List.cons_append, at?]
      cases entries.lookup name with
      | none => rfl
      | some tree => exact induction tree
  | case3 tree name path noFolder =>
      cases tree with
      | folder entries => exact absurd rfl (noFolder entries)
      | file content => rfl
      | link target => rfl

theorem at?_concat {root : FileTree} {place : List String} {entries : List (String × FileTree)}
    (folder : root.at? place = some (.folder entries)) (name : String) :
    root.at? (place ++ [name]) = entries.lookup name := by
  rw [at?_append, folder]
  exact Option.bind_fun_some (entries.lookup name)

/-- What a tree shows from outside. Only a file shows what is in it. -/
inductive Sight where
  | file (content : ByteArray)
  | folder
  | link (target : String)

def sight : FileTree → Sight
  | .file content => .file content
  | .folder _ => .folder
  | .link target => .link target

theorem sight_ne_link {tree : FileTree} (plain : ∀ target, tree ≠ .link target) :
    ∀ target, tree.sight ≠ .link target := by
  intro target link
  cases tree with
  | link other => exact plain other rfl
  | file content => cases link
  | folder entries => cases link

/-- What there is to see at a place. -/
def sightAt? (root : FileTree) (place : List String) : Option Sight := (root.at? place).map sight

variable {root other : FileTree} {links left : Nat} {place last way rest : List String}
  {step : String}

theorem sightAt?_of_at? {tree : FileTree} (there : root.at? place = some tree) :
    root.sightAt? place = some tree.sight := by
  rw [sightAt?, there, Option.map_some]

theorem sightAt?_concat {entries : List (String × FileTree)}
    (folder : root.at? place = some (.folder entries)) (name : String) :
    root.sightAt? (place ++ [name]) = (entries.lookup name).map sight := by
  rw [sightAt?, at?_concat folder]

theorem sightAt?_of_lookup {entries : List (String × FileTree)} {tree : FileTree}
    (folder : root.at? place = some (.folder entries)) (there : entries.lookup step = some tree) :
    root.sightAt? (place ++ [step]) = some tree.sight := by
  rw [sightAt?_concat folder, there, Option.map_some]

/-! ## Steps -/

/-- A step that asks for an entry of a folder by its name. -/
structure Named (step : String) : Prop where
  not_dot : step ≠ "."
  not_dots : step ≠ ".."
  short : step.utf8ByteSize ≤ nameLimit

/-- Where the steps of a link begin that is found in the folder at a place. -/
def linkStart (target : String) (place : List String) : List String :=
  if target.startsWith "/" then [] else place

/-- What the next step comes to hangs on what is seen at the place and at the entry that is asked
for. -/
theorem walk_cons (root : FileTree) (links : Nat) (place : List String) (step : String)
    (rest : List String) :
    root.walk links place (step :: rest) =
      match root.sightAt? place with
      | some .folder =>
          if step = "." then root.walk links place rest
          else if step = ".." then root.walk links place.dropLast rest
          else if nameLimit < step.utf8ByteSize then .error .nameTooLong
          else
            match root.sightAt? (place ++ [step]) with
            | none => .error .notFound
            | some (.link target) =>
                match links with
                | 0 => .error .tooManyLinks
                | links + 1 =>
                    root.walk links (linkStart target place) (steps target.toList ++ rest)
            | some _ => root.walk links (place ++ [step]) rest
      | some _ => .error .notDirectory
      | none => .error .notFound := by
  rw [walk]
  cases there : root.at? place with
  | none =>
      rw [sightAt?, there]
      rfl
  | some tree =>
      rw [sightAt?_of_at? there]
      cases tree with
      | file content => rfl
      | link target => rfl
      | folder entries =>
          rw [sightAt?_concat there]
          dsimp only [sight]
          cases entries.lookup step with
          | none => rfl
          | some tree =>
              cases tree with
              | file content => rfl
              | folder entries => rfl
              | link target => rfl

theorem walk_dot (folder : root.sightAt? place = some .folder) :
    root.walk links place ("." :: rest) = root.walk links place rest := by
  rw [walk_cons, folder]
  rfl

theorem walk_dots (folder : root.sightAt? place = some .folder) :
    root.walk links place (".." :: rest) = root.walk links place.dropLast rest := by
  rw [walk_cons, folder]
  rfl

theorem walk_named (folder : root.sightAt? place = some .folder) (named : Named step) :
    root.walk links place (step :: rest) =
      match root.sightAt? (place ++ [step]) with
      | none => .error .notFound
      | some (.link target) =>
          match links with
          | 0 => .error .tooManyLinks
          | links + 1 => root.walk links (linkStart target place) (steps target.toList ++ rest)
      | some _ => root.walk links (place ++ [step]) rest := by
  rw [walk_cons, folder]
  simp only [if_neg named.not_dot, if_neg named.not_dots, if_neg (Nat.not_lt.2 named.short)]

/-- What a walk does step by step, as long as nothing is in the way: the links that may still be
followed and the place before, the steps to go, and the links and the place in the end. -/
inductive Walks (root : FileTree) : Nat → List String → List String → Nat → List String → Prop
  | done {links : Nat} {place : List String} : Walks root links place [] links place
  | stay {links left : Nat} {place rest last : List String}
      (folder : root.sightAt? place = some .folder)
      (later : Walks root links place rest left last) :
      Walks root links place ("." :: rest) left last
  | up {links left : Nat} {place rest last : List String}
      (folder : root.sightAt? place = some .folder)
      (later : Walks root links place.dropLast rest left last) :
      Walks root links place (".." :: rest) left last
  | enter {links left : Nat} {place rest last : List String} {step : String} {sight : Sight}
      (folder : root.sightAt? place = some .folder) (named : Named step)
      (there : root.sightAt? (place ++ [step]) = some sight)
      (plain : ∀ target, sight ≠ .link target)
      (later : Walks root links (place ++ [step]) rest left last) :
      Walks root links place (step :: rest) left last
  | follow {links left : Nat} {place rest last : List String} {step target : String}
      (folder : root.sightAt? place = some .folder) (named : Named step)
      (there : root.sightAt? (place ++ [step]) = some (.link target))
      (later : Walks root links (linkStart target place) (steps target.toList ++ rest) left last) :
      Walks root (links + 1) place (step :: rest) left last

theorem Walks.walk_eq (walks : Walks root links place way left last) :
    root.walk links place way = .ok last := by
  induction walks with
  | done => rw [walk]
  | stay folder _ induction => exact (walk_dot folder).trans induction
  | up folder _ induction => exact (walk_dots folder).trans induction
  | @enter _ _ _ _ _ _ sight folder named there plain _ induction =>
      rw [walk_named folder named, there]
      cases sight with
      | link target => exact absurd rfl (plain target)
      | file content => exact induction
      | folder => exact induction
  | follow folder named there _ induction =>
      rw [walk_named folder named, there]
      exact induction

theorem exists_walks_of_walk (walked : root.walk links place way = .ok last) :
    ∃ left, Walks root links place way left last := by
  fun_induction walk root links place way with
  | case1 links place =>
      cases walked
      exact ⟨links, .done⟩
  | case2 links place rest entries folder induction =>
      exact (induction walked).imp fun _ later => .stay (sightAt?_of_at? folder) later
  | case3 links place rest entries folder _ induction =>
      exact (induction walked).imp fun _ later => .up (sightAt?_of_at? folder) later
  | case7 place step rest entries folder notDot notDots short target there links start induction =>
      exact (induction walked).imp fun _ later =>
        .follow (sightAt?_of_at? folder) ⟨notDot, notDots, Nat.le_of_not_lt short⟩
          (sightAt?_of_lookup folder there) later
  | case8 links place step rest entries folder notDot notDots short tree plain there induction =>
      exact (induction walked).imp fun _ later =>
        .enter (sightAt?_of_at? folder) ⟨notDot, notDots, Nat.le_of_not_lt short⟩
          (sightAt?_of_lookup folder there) (sight_ne_link plain) later
  | _ => cases walked

/-- A walk comes to a place exactly when its steps lead there. -/
theorem walk_eq_ok_iff :
    root.walk links place way = .ok last ↔ ∃ left, Walks root links place way left last :=
  ⟨exists_walks_of_walk, fun walks => walks.elim fun _ walks => walks.walk_eq⟩

theorem Walks.append {between : Nat} {middle : List String}
    (walks : Walks root links place way between middle)
    (later : Walks root between middle rest left last) :
    Walks root links place (way ++ rest) left last := by
  induction walks with
  | done => exact later
  | stay folder _ induction => exact .stay folder (induction later)
  | up folder _ induction => exact .up folder (induction later)
  | enter folder named there plain _ induction =>
      exact .enter folder named there plain (induction later)
  | follow folder named there _ induction =>
      exact .follow folder named there (List.append_assoc _ _ _ ▸ induction later)

theorem Walks.split (walks : Walks root links place (way ++ rest) left last) :
    ∃ between middle, Walks root links place way between middle ∧
      Walks root between middle rest left last := by
  -- The induction is on the walk and not on its steps, for a link puts other steps in their place.
  -- Each step taken is either the first one of the rest or still one of the way.
  generalize written : way ++ rest = steps at walks
  induction walks generalizing way with
  | done =>
      rcases List.append_eq_nil_iff.1 written with ⟨rfl, rfl⟩
      exact ⟨_, _, .done, .done⟩
  | stay folder later induction =>
      rcases List.append_eq_cons_iff.1 written with ⟨rfl, rfl⟩ | ⟨others, rfl, rfl⟩
      · exact ⟨_, _, .done, .stay folder later⟩
      · rcases induction rfl with ⟨between, middle, first, second⟩
        exact ⟨between, middle, .stay folder first, second⟩
  | up folder later induction =>
      rcases List.append_eq_cons_iff.1 written with ⟨rfl, rfl⟩ | ⟨others, rfl, rfl⟩
      · exact ⟨_, _, .done, .up folder later⟩
      · rcases induction rfl with ⟨between, middle, first, second⟩
        exact ⟨between, middle, .up folder first, second⟩
  | enter folder named there plain later induction =>
      rcases List.append_eq_cons_iff.1 written with ⟨rfl, rfl⟩ | ⟨others, rfl, rfl⟩
      · exact ⟨_, _, .done, .enter folder named there plain later⟩
      · rcases induction rfl with ⟨between, middle, first, second⟩
        exact ⟨between, middle, .enter folder named there plain first, second⟩
  | follow folder named there later induction =>
      rcases List.append_eq_cons_iff.1 written with ⟨rfl, rfl⟩ | ⟨others, rfl, rfl⟩
      · exact ⟨_, _, .done, .follow folder named there later⟩
      · rcases induction (List.append_assoc _ _ _) with ⟨between, middle, first, second⟩
        exact ⟨between, middle, .follow folder named there first, second⟩

/-! ## What is looked at -/

/-- A place that a walk looks at: one that it comes to, or an entry that it asks a folder for,
whether or not that is there. -/
inductive LooksAt (root : FileTree) (seen : List String) : Nat → List String → List String → Prop
  | here {links : Nat} {way : List String} : LooksAt root seen links seen way
  | stay {links : Nat} {place rest : List String} (folder : root.sightAt? place = some .folder)
      (later : LooksAt root seen links place rest) : LooksAt root seen links place ("." :: rest)
  | up {links : Nat} {place rest : List String} (folder : root.sightAt? place = some .folder)
      (later : LooksAt root seen links place.dropLast rest) :
      LooksAt root seen links place (".." :: rest)
  | ask {links : Nat} {place rest : List String} {step : String}
      (folder : root.sightAt? place = some .folder) (named : Named step)
      (asked : seen = place ++ [step]) : LooksAt root seen links place (step :: rest)
  | enter {links : Nat} {place rest : List String} {step : String} {sight : Sight}
      (folder : root.sightAt? place = some .folder) (named : Named step)
      (there : root.sightAt? (place ++ [step]) = some sight)
      (plain : ∀ target, sight ≠ .link target)
      (later : LooksAt root seen links (place ++ [step]) rest) :
      LooksAt root seen links place (step :: rest)
  | follow {links : Nat} {place rest : List String} {step target : String}
      (folder : root.sightAt? place = some .folder) (named : Named step)
      (there : root.sightAt? (place ++ [step]) = some (.link target))
      (later : LooksAt root seen links (linkStart target place) (steps target.toList ++ rest)) :
      LooksAt root seen (links + 1) place (step :: rest)

/-- Two trees that show the same wherever a walk through the first one looks. -/
def AlikeFor (root other : FileTree) (links : Nat) (place way : List String) : Prop :=
  ∀ seen, LooksAt root seen links place way → other.sightAt? seen = root.sightAt? seen

theorem AlikeFor.folder {entries : List (String × FileTree)}
    (alike : AlikeFor root other links place way)
    (there : root.at? place = some (.folder entries)) : other.sightAt? place = some .folder :=
  (alike place .here).trans (sightAt?_of_at? there)

theorem AlikeFor.entry {entries : List (String × FileTree)}
    (alike : AlikeFor root other links place (step :: rest))
    (folder : root.at? place = some (.folder entries)) (named : Named step) :
    other.sightAt? (place ++ [step]) = (entries.lookup step).map sight :=
  (alike _ (.ask (sightAt?_of_at? folder) named rfl)).trans (sightAt?_concat folder step)

/-- The case split is that of the walk through the first tree; in each case the second tree shows
what is needed to take the same step. -/
theorem AlikeFor.walk_eq (alike : AlikeFor root other links place way) :
    other.walk links place way = root.walk links place way := by
  fun_induction walk root links place way with
  | case1 links place => rw [walk]
  | case2 links place rest entries folder induction =>
      exact (walk_dot (alike.folder folder)).trans
        (induction fun seen looks => alike seen (.stay (sightAt?_of_at? folder) looks))
  | case3 links place rest entries folder _ induction =>
      exact (walk_dots (alike.folder folder)).trans
        (induction fun seen looks => alike seen (.up (sightAt?_of_at? folder) looks))
  | case4 links place step rest entries folder notDot notDots long =>
      rw [walk_cons, alike.folder folder]
      simp only [if_neg notDot, if_neg notDots, if_pos long]
  | case5 links place step rest entries folder notDot notDots short missing =>
      have named : Named step := ⟨notDot, notDots, Nat.le_of_not_lt short⟩
      rw [walk_named (alike.folder folder) named, alike.entry folder named, missing]
      rfl
  | case6 place step rest entries folder notDot notDots short target there =>
      have named : Named step := ⟨notDot, notDots, Nat.le_of_not_lt short⟩
      rw [walk_named (alike.folder folder) named, alike.entry folder named, there]
      rfl
  | case7 place step rest entries folder notDot notDots short target there links start induction =>
      have named : Named step := ⟨notDot, notDots, Nat.le_of_not_lt short⟩
      rw [walk_named (alike.folder folder) named, alike.entry folder named, there]
      exact induction fun seen looks =>
        alike seen (.follow (sightAt?_of_at? folder) named (sightAt?_of_lookup folder there) looks)
  | case8 links place step rest entries folder notDot notDots short tree plain there induction =>
      have named : Named step := ⟨notDot, notDots, Nat.le_of_not_lt short⟩
      have later := induction fun seen looks =>
        alike seen (.enter (sightAt?_of_at? folder) named (sightAt?_of_lookup folder there)
          (sight_ne_link plain) looks)
      rw [walk_named (alike.folder folder) named, alike.entry folder named, there]
      cases tree with
      | link other => exact absurd rfl (plain other)
      | file content => exact later
      | folder others => exact later
  | case9 links place step rest tree noFolder there =>
      rw [walk_cons, alike place .here, sightAt?_of_at? there]
      cases tree with
      | folder entries => exact absurd rfl (noFolder entries)
      | file content => rfl
      | link target => rfl
  | case10 links place step rest missing =>
      rw [walk_cons, alike place .here, sightAt?, missing]
      rfl

end LanguageWorker.FileTree
