import ClusterProvisioning.Proofs.SessionIdentities
import ClusterProvisioning.Proofs.NameLabels

/-!
# The directories of owners

A session mounts a directory of its owner from two shared volumes, and the directory is called by
the owner's label. A label keeps the words of a text, which are its runs of letters and digits, up
to 52 characters, and nothing of what stands between them (`labelChars_words`). Owners with the same
words, or with words that begin alike and are long, therefore share their directories
(`directories_shared`). That labels are not injective is harmless in the names of objects, which
end in a random suffix. Directories have none.
-/

namespace ClusterProvisioning.Proofs
open Plan

/-! ### Words -/

/-- The words of a text whose first characters belong to an open word. -/
def wordsFrom (word : List Char) : List Char → List (List Char)
  | [] => if word = [] then [] else [word]
  | c :: cs =>
    if Text.isLabelChar c then wordsFrom (word ++ [c]) cs
    else if word = [] then wordsFrom [] cs
    else word :: wordsFrom [] cs

/-- The runs of characters that labels take. -/
def words (cs : List Char) : List (List Char) := wordsFrom [] cs

def hyphenated (ws : List (List Char)) : List Char := List.intercalate ['-'] ws

/-- What fits into a label. -/
def cutLabel (cs : List Char) : List Char :=
  Text.dropEndWhile (· == '-') (cs.take Text.labelLimit)

def Word (cs : List Char) : Prop := cs ≠ [] ∧ ∀ c ∈ cs, Text.isLabelChar c = true

theorem word_of_wordsFrom {word : List Char} (taken : ∀ c ∈ word, Text.isLabelChar c = true)
    (cs : List Char) : ∀ w ∈ wordsFrom word cs, Word w := by
  induction cs generalizing word with
  | nil =>
    unfold wordsFrom
    split
    next => exact fun w hw => absurd hw List.not_mem_nil
    next filled => exact List.forall_mem_singleton.mpr ⟨filled, taken⟩
  | cons c cs ih =>
    unfold wordsFrom
    split
    next hc =>
      exact ih (List.forall_mem_append.mpr ⟨taken, List.forall_mem_singleton.mpr hc⟩)
    next =>
      have rest := ih (fun c hc => absurd hc List.not_mem_nil)
      split
      next => exact rest
      next filled => exact List.forall_mem_cons.mpr ⟨⟨filled, taken⟩, rest⟩

theorem word_of_words {cs w : List Char} (h : w ∈ words cs) : Word w :=
  word_of_wordsFrom (fun _ hc => absurd hc List.not_mem_nil) cs w h

theorem Word.no_hyphen {cs : List Char} (h : Word cs) : '-' ∉ cs :=
  fun hyphen => Bool.false_ne_true (isLabelChar_hyphen.symm.trans (h.2 _ hyphen))

theorem hyphenated_cons (w : List Char) {ws : List (List Char)} (h : ws ≠ []) :
    hyphenated (w :: ws) = w ++ '-' :: hyphenated ws := by
  cases ws with
  | nil => exact absurd rfl h
  | cons v rest =>
    unfold hyphenated
    rw [List.intercalate_cons_cons, List.append_assoc]
    rfl

theorem hyphenated_nil {ws : List (List Char)} (h : ∀ w ∈ ws, Word w) :
    hyphenated ws = [] ↔ ws = [] := by
  constructor
  · intro empty
    cases ws with
    | nil => rfl
    | cons w rest =>
      have filled := (List.forall_mem_cons.mp h).1.1
      by_cases last : rest = []
      · subst last
        exact absurd (List.intercalate_singleton.symm.trans empty) filled
      · rw [hyphenated_cons w last] at empty
        exact absurd (List.append_eq_nil_iff.mp empty).1 filled
  · rintro rfl
    exact List.intercalate_nil

/-- Words can be told apart when they are joined. -/
theorem hyphenated_injective {ws ws' : List (List Char)} (h : ∀ w ∈ ws, Word w)
    (h' : ∀ w ∈ ws', Word w) (joined : hyphenated ws = hyphenated ws') : ws = ws' := by
  by_cases hnil : ws = []
  · have hnil' := (hyphenated_nil h').mp (joined.symm.trans ((hyphenated_nil h).mpr hnil))
    rw [hnil, hnil']
  · have hnil' : ws' ≠ [] := fun empty =>
      hnil ((hyphenated_nil h).mp (joined.trans ((hyphenated_nil h').mpr empty)))
    rw [← List.splitOn_intercalate '-' (fun w hw => (h w hw).no_hyphen) hnil,
      ← List.splitOn_intercalate '-' (fun w hw => (h' w hw).no_hyphen) hnil']
    exact congrArg (List.splitOn '-') joined

/-! ### Labels by words -/

/-- The reverse of what stands before an open word: nothing, or something with a hyphen. -/
def Closed (reversed : List Char) : Prop := reversed = [] ∨ ∃ rest, reversed = '-' :: rest

theorem pushLabel_closed {reversed : List Char} (closed : Closed reversed) {c : Char}
    (refused : Text.isLabelChar c = false) : Text.pushLabel reversed c = reversed := by
  rw [pushLabel_refused reversed refused]
  rcases closed with rfl | ⟨rest, rfl⟩ <;> rfl

theorem pushLabel_open {word : List Char} (h : Word word) (reversed : List Char) {c : Char}
    (refused : Text.isLabelChar c = false) :
    Text.pushLabel (word.reverse ++ reversed) c = '-' :: (word.reverse ++ reversed) := by
  obtain ⟨init, last, rfl⟩ := (List.eq_nil_or_concat' word).resolve_left h.1
  have hlast : last ≠ '-' := by
    rintro rfl
    exact h.no_hyphen (List.mem_append_right _ List.mem_cons_self)
  rw [pushLabel_refused _ refused, List.reverse_append]
  simp [Text.pushLabel, isLabelChar_hyphen]

/-- Labels are built up from words with hyphens between them, and one more hyphen if the last word
is closed. By induction on the text, with what stands before the open word always closed. -/
theorem foldl_pushLabel_words {reversed word : List Char} (closed : Closed reversed)
    (taken : ∀ c ∈ word, Text.isLabelChar c = true) (cs : List Char) :
    ∃ tail, (tail = [] ∨ tail = ['-'] ∧ wordsFrom word cs ≠ []) ∧
      (cs.foldl Text.pushLabel (word.reverse ++ reversed)).reverse =
        reversed.reverse ++ hyphenated (wordsFrom word cs) ++ tail := by
  induction cs generalizing reversed word with
  | nil =>
    refine ⟨[], .inl rfl, ?_⟩
    unfold wordsFrom
    split
    next empty => simp [empty, hyphenated]
    next => simp [hyphenated]
  | cons c cs ih =>
    unfold wordsFrom
    rw [List.foldl_cons]
    split
    next hc =>
      have push : Text.pushLabel (word.reverse ++ reversed) c =
          (word ++ [c]).reverse ++ reversed := by
        unfold Text.pushLabel
        rw [if_pos hc, List.reverse_append]
        rfl
      rw [push]
      exact ih closed (List.forall_mem_append.mpr ⟨taken, List.forall_mem_singleton.mpr hc⟩)
    next hc =>
      have refused := eq_false_of_ne_true hc
      have none : ∀ d ∈ ([] : List Char), Text.isLabelChar d = true :=
        fun _ hd => absurd hd List.not_mem_nil
      split
      next empty =>
        subst empty
        rw [List.reverse_nil, List.nil_append, pushLabel_closed closed refused]
        exact ih closed none
      next filled =>
        rw [pushLabel_open ⟨filled, taken⟩ reversed refused]
        obtain ⟨tail, htail, h⟩ := ih (.inr ⟨word.reverse ++ reversed, rfl⟩) none
        rw [List.reverse_nil, List.nil_append] at h
        rw [h]
        -- The hyphen that closes the word is the one at the end if no word follows.
        by_cases last : wordsFrom [] cs = []
        · refine ⟨['-'], .inr ⟨rfl, List.cons_ne_nil _ _⟩, ?_⟩
          have hnone : tail = [] := htail.resolve_right fun h => h.2 last
          simp [last, hnone, hyphenated]
        · refine ⟨tail, htail.imp_right fun h => ⟨h.1, List.cons_ne_nil _ _⟩, ?_⟩
          rw [hyphenated_cons word last]
          simp

/-- A label is what fits of the words with hyphens between them. -/
theorem labelChars_words (cs : List Char) :
    Text.labelChars cs = cutLabel (hyphenated (words (Text.lowered cs))) := by
  obtain ⟨tail, htail, built⟩ := foldl_pushLabel_words (.inl rfl)
    (fun _ hc => absurd hc List.not_mem_nil) (Text.lowered cs)
  simp only [List.reverse_nil, List.nil_append] at built
  change List.rdropWhile (· == '-') ((builtUp cs).take Text.labelLimit) =
    List.rdropWhile (· == '-') ((hyphenated (words (Text.lowered cs))).take Text.labelLimit)
  rw [builtUp, built, List.take_append, words]
  rcases htail with rfl | ⟨rfl, -⟩
  · rw [List.take_nil, List.append_nil]
  · cases Text.labelLimit - (hyphenated (wordsFrom [] (Text.lowered cs))).length with
    | zero => rw [List.take_zero, List.append_nil]
    | succ n =>
      rw [List.take_succ_cons, List.take_nil]
      exact List.rdropWhile_concat_pos (· == '-') _ '-' rfl

theorem hyphenated_last {ws : List (List Char)} (h : ∀ w ∈ ws, Word w) :
    (hyphenated ws).getLast? ≠ some '-' := by
  induction ws with
  | nil => simp [hyphenated]
  | cons w rest ih =>
    obtain ⟨hw, hrest⟩ := List.forall_mem_cons.mp h
    by_cases last : rest = []
    · subst last
      rw [hyphenated, List.intercalate_singleton]
      exact fun hyphen => hw.no_hyphen (List.mem_of_getLast? hyphen)
    · have filled : hyphenated rest ≠ [] := fun empty => last ((hyphenated_nil hrest).mp empty)
      rw [hyphenated_cons w last, List.getLast?_append_of_ne_nil _ (List.cons_ne_nil _ _)]
      obtain ⟨c, cs, hcs⟩ := List.exists_cons_of_ne_nil filled
      rw [hcs, List.getLast?_cons_cons, ← hcs]
      exact ih hrest

theorem cutLabel_fitting {ws : List (List Char)} (h : ∀ w ∈ ws, Word w)
    (fits : (hyphenated ws).length ≤ Text.labelLimit) : cutLabel (hyphenated ws) = hyphenated ws := by
  change List.rdropWhile (· == '-') ((hyphenated ws).take Text.labelLimit) = _
  rw [List.take_of_length_le fits]
  refine List.rdropWhile_eq_self_iff.mpr fun filled hyphen => hyphenated_last h ?_
  rw [List.getLast?_eq_some_getLast filled, beq_iff_eq.mp hyphen]

/-! ### Directories -/

/-- The words of the owner of a request. -/
def ownerWords (request : WorkloadRequest) : List (List Char) :=
  words (Text.lowered request.owner.toList)

def mountPath (position : String) : List String :=
  ["spec", "containers", "0", "volumeMounts", position]

/-- The pod mounts a directory of a volume. -/
def Mounts (pod : PlanUnit) (position volume directory : String) : Prop :=
  pod.manifest.at? (mountPath position ++ ["name"]) = some (.string volume) ∧
    pod.manifest.at? (mountPath position ++ ["subPath"]) = some (.string directory)

/-- The pod of a session mounts a directory for its owner's work and its archives. -/
def OwnerDirectory (plan : Plan) (directory : String) : Prop :=
  ∃ pod, plan.units.head? = some pod ∧ pod.kind = .pod ∧
    Mounts pod "0" "workspace" directory ∧ Mounts pod "1" "archives" directory

theorem ownerDirectory_of_build {config : Config} {request : WorkloadRequest} {suffix : String}
    {plan : Plan} (kind : request.kind = .session)
    (built : Plan.build config request suffix = .ok plan) :
    ∃ directory, Text.label? request.owner = some directory ∧ OwnerDirectory plan directory := by
  obtain ⟨image, resources, owner, -, howner, -, rfl⟩ := sessionPlan_assemble kind built
  exact ⟨owner, howner, _, rfl, rfl, ⟨rfl, rfl⟩, rfl, rfl⟩

/-- Two sessions, of whatever names and volumes, mount the same directories exactly if the words of
their owners are the same as far as they fit. Owners with other words that fit have other
directories. -/
theorem directories_shared (config config' : Config) (request request' : WorkloadRequest)
    (suffix suffix' : String) (plan plan' : Plan) (kind : request.kind = .session)
    (kind' : request'.kind = .session) (built : Plan.build config request suffix = .ok plan)
    (built' : Plan.build config' request' suffix' = .ok plan') :
    ∃ directory directory', OwnerDirectory plan directory ∧ OwnerDirectory plan' directory' ∧
      (directory = directory' ↔
        cutLabel (hyphenated (ownerWords request)) =
          cutLabel (hyphenated (ownerWords request'))) ∧
      ((hyphenated (ownerWords request)).length ≤ Text.labelLimit →
        (hyphenated (ownerWords request')).length ≤ Text.labelLimit →
          (directory = directory' ↔ ownerWords request = ownerWords request')) := by
  obtain ⟨directory, hlabel, mounts⟩ := ownerDirectory_of_build kind built
  obtain ⟨directory', hlabel', mounts'⟩ := ownerDirectory_of_build kind' built'
  have text := (labelChars_words _).symm.trans (label?_some.mp hlabel).1
  have text' := (labelChars_words _).symm.trans (label?_some.mp hlabel').1
  have shared : directory = directory' ↔ cutLabel (hyphenated (ownerWords request)) =
      cutLabel (hyphenated (ownerWords request')) := by
    rw [ownerWords, ownerWords, text, text', String.toList_inj]
  refine ⟨directory, directory', mounts, mounts', shared, fun fits fits' => ?_⟩
  have own : ∀ w ∈ ownerWords request, Word w := fun _ => word_of_words
  have own' : ∀ w ∈ ownerWords request', Word w := fun _ => word_of_words
  rw [shared, cutLabel_fitting own fits, cutLabel_fitting own' fits']
  exact ⟨hyphenated_injective own own', congrArg hyphenated⟩

def ownedRequest (owner : String) : WorkloadRequest := { claimingRequest with owner := owner }

theorem directories_shared_kings :
    ∃ plan plan' directory directory',
      (ownedRequest "ada.king").kind = .session ∧ (ownedRequest "ada.byron").kind = .session ∧
      Plan.build .standard (ownedRequest "ada.king") "1a2b3" = .ok plan ∧
      Plan.build .standard (ownedRequest "ada.byron") "1a2b3" = .ok plan' ∧
      OwnerDirectory plan directory ∧ OwnerDirectory plan' directory' ∧ directory ≠ directory' := by
  obtain ⟨plan, built⟩ := exists_of_isOk
    (by decide +kernel : (Plan.build .standard (ownedRequest "ada.king") "1a2b3").isOk = true)
  obtain ⟨plan', built'⟩ := exists_of_isOk
    (by decide +kernel : (Plan.build .standard (ownedRequest "ada.byron") "1a2b3").isOk = true)
  obtain ⟨directory, directory', mounts, mounts', -, fitting⟩ :=
    directories_shared .standard .standard (ownedRequest "ada.king") (ownedRequest "ada.byron")
      "1a2b3" "1a2b3" plan plan' rfl rfl built built'
  have apart : ownerWords (ownedRequest "ada.king") ≠ ownerWords (ownedRequest "ada.byron") := by
    decide +kernel
  exact ⟨plan, plan', directory, directory', rfl, rfl, built, built', mounts, mounts',
    fun same => apart ((fitting (by decide +kernel) (by decide +kernel)).mp same)⟩

/-- Owners whose names differ in more than blank characters and letter case share a directory. -/
theorem directories_not_apart :
    ¬∀ (config : Config) (request request' : WorkloadRequest) (suffix suffix' : String)
      (plan plan' : Plan) (directory directory' : String), request.kind = .session →
      request'.kind = .session → Plan.build config request suffix = .ok plan →
      Plan.build config request' suffix' = .ok plan' → OwnerDirectory plan directory →
      OwnerDirectory plan' directory' →
      Text.lowered request.owner.toList ≠ Text.lowered request'.owner.toList →
      directory ≠ directory' := by
  intro apart
  obtain ⟨plan, built⟩ := exists_of_isOk
    (by decide +kernel : (Plan.build .standard (ownedRequest "ada.king") "1a2b3").isOk = true)
  obtain ⟨plan', built'⟩ := exists_of_isOk
    (by decide +kernel : (Plan.build .standard (ownedRequest "ada-king") "1a2b3").isOk = true)
  obtain ⟨directory, hlabel, mounts⟩ := ownerDirectory_of_build rfl built
  obtain ⟨directory', hlabel', mounts'⟩ := ownerDirectory_of_build rfl built'
  have same : Text.label? "ada.king" = Text.label? "ada-king" := by decide +kernel
  refine apart _ _ _ _ _ _ _ _ _ rfl rfl built built' mounts mounts' (by decide +kernel) ?_
  exact Option.some.inj (hlabel.symm.trans (same.trans hlabel'))

end ClusterProvisioning.Proofs
