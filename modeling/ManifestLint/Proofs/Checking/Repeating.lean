import ManifestLint.Proofs.Checking.Suggesting

/-!
# Suggestions that repeat what was written

A finding that something is not valid may suggest another text for it.  Whatever the
replies are and whatever others do meanwhile, what it suggests is never the very text
that it reports, with one exception: a package that names the public index by its own
address is told to name the public index, when the index is not found.  The rule for the
index is the only one that does not look whether its suggestion is another text.

* `Rule.Subject`: what a finding may report as invalid, with its text and its place.
* `keeps_drawn_dependency`: what the check of a dependency may suggest.
* `Rule.suggests_own_text_iff`: which findings suggest the text that they report.
-/

namespace ManifestLint

/-! ## What a finding suggests -/

/-- The codes of what is not valid. -/
def Code.invalid : List Code :=
  [.invalidAuthor, .invalidName, .invalidVersion, .invalidRealm, .invalidRegistry]

/-- The finding suggests a text: the text stands for a placeholder of its message.  An
empty one stands for no suggestion. -/
def Finding.Suggests (finding : Finding) (text : String) : Prop :=
  text ≠ "" ∧ ∃ name, (name, text) ∈ finding.substitutions

theorem Finding.suggests_of_iff {code : Code} {span : Toml.Span} {name text : String}
    {suggestion : Option String} :
    (Finding.of code span [(name, suggestion)]).Suggests text ↔
      text ≠ "" ∧ suggestion = some text := by
  have hclean : (Finding.of code span [(name, suggestion)]).substitutions =
      [(name, suggestion.getD "")] := rfl
  refine and_congr_right fun htext => ?_
  rw [hclean]
  constructor
  · rintro ⟨other, hmem⟩
    obtain ⟨-, hsame⟩ := Prod.mk.inj (List.mem_singleton.mp hmem)
    cases suggestion with
    | none => exact absurd hsame htext
    | some found => exact congrArg some hsame.symm
  · rintro rfl
    exact ⟨name, List.mem_singleton.mpr rfl⟩

/-- The realm that is suggested is one. -/
theorem closestRealm_mem (text : String) : closestRealm text ∈ Realm.names := by
  have hmem : Suggestion.closestChars text.toList (Realm.names.map String.toList)
      Realm.shared.name.toList ∈ Realm.names.map String.toList := by
    by_cases htext : text.toList = []
    · rw [htext, Suggestion.closestChars]
      exact List.mem_map_of_mem (by decide)
    · exact Suggestion.closestChars_mem htext _
  obtain ⟨name, hname, hsame⟩ := List.mem_map.mp hmem
  rw [closestRealm, Suggestion.closest, ← hsame, String.ofList_toList]
  exact hname

/-- The address of the public index looks like a copy of itself. -/
theorem closestIndex?_public : closestIndex? publicIndexUrl = some publicIndexUrl := by
  rw [closestIndex?]
  simp

/-- The only index that is ever suggested is the public one. -/
theorem eq_public_of_closestIndex? {text url : String} (h : closestIndex? text = some url) :
    url = publicIndexUrl := by
  unfold closestIndex? at h
  dsimp only at h
  split at h
  · exact (Option.some.inj h).symm
  · cases h

/-! ## Actions of which nothing is agreed -/

/-- The agreement that says nothing: the state may be anything, and so may the replies. -/
def Agreement.free (σ : Type) : Agreement σ := ⟨fun _ => True, fun _ _ => True⟩

theorem World.keeps_free {σ : Type} (world : World σ) : world.Keeps (.free σ) :=
  ⟨fun _ _ => trivial, fun _ _ _ => trivial⟩

theorem Program.keeps_free {σ α : Type} (program : Program σ α) :
    program.Keeps (.free σ) fun _ => True := by
  induction program with
  | done state value => exact ⟨trivial, trivial⟩
  | waiting state request resume ih => exact ⟨trivial, fun later reply _ _ => ih later reply⟩

namespace Instant

theorem keeps_free {σ α ε : Type} (action : ExceptT ε (Action σ) α) :
    Keeps (.free σ) (fun _ => True) (fun _ => True) action := by
  intro state _
  refine (Program.keeps_free _).mono fun ended _ => ?_
  cases ended <;> trivial

/-- What is known of an action of which nothing is agreed is known of it in every
world. -/
theorem Keeps.of_free {σ α ε : Type} {result : α → Prop} {failure : ε → Prop}
    {action : ExceptT ε (Action σ) α} (h : Keeps (.free σ) result failure action)
    {world : World σ} {instant : Instant σ} {value : α}
    (hended : instant.ended world action = .ok value) : result value :=
  (h.ended world.keeps_free trivial).of_ok hended

end Instant

namespace Rule

open Instant

/-! ## What the check of a dependency may suggest -/

variable {handle : Handle} {dependency : Dependency}

/-- If the finding is that something is not valid, it is about a part of the dependency,
and suggests the closest of some options unless that is the text of the part. -/
def Drawn (dependency : Dependency) (found : Option Finding) : Prop :=
  ∀ finding ∈ found, finding.code ∈ Code.invalid →
    ∃ (part : Part) (options : Option (List String)),
      finding = .of part.code dependency.valueSpan
        [(part.placeholder, closestOther? (part.text dependency.specifier) options)]

/-- A rule settles nothing, or with such a finding. -/
def DrawnRule (dependency : Dependency) (found : Option (Option Finding)) : Prop :=
  (found = none ∧ True) ∨ ∃ value, found = some value ∧ Drawn dependency value

theorem drawn_other {code : Code} (hcode : code ∉ Code.invalid) (span : Toml.Span)
    (substitutions : List (String × Option String)) :
    Drawn dependency (some (.of code span substitutions)) := by
  intro finding hfinding hinvalid
  obtain rfl := Option.some.inj hfinding
  exact absurd hinvalid hcode

/-- A part has one text, whatever the options for another one are. -/
theorem keeps_closest (specifier : Specifier) (part : Part) :
    Keeps (.free Registry)
      (fun suggestion => ∃ options, suggestion = closestOther? (part.text specifier) options)
      (fun _ => True) (part.closest handle specifier) := by
  cases part with
  | author => exact (keeps_free _).bind fun names _ => keeps_pure ⟨names, rfl⟩
  | name => exact (keeps_free _).bind fun names _ => keeps_pure ⟨names, rfl⟩
  | requirement => exact (keeps_free _).bind fun versions _ => keeps_pure ⟨versions, rfl⟩

theorem keeps_drawn_suggested (part : Part) :
    Keeps (.free Registry) (DrawnRule dependency) (fun _ => True)
      (do
        let suggestion ← part.closest handle dependency.specifier
        return some (some (.of part.code dependency.valueSpan
          [(part.placeholder, suggestion)])) : Lookup (Option (Option Finding))) := by
  refine (keeps_closest dependency.specifier part).bind fun suggestion hsuggestion => ?_
  obtain ⟨options, rfl⟩ := hsuggestion
  refine keeps_pure (.inr ⟨_, rfl, ?_⟩)
  intro finding hfinding _
  exact ⟨part, options, (Option.some.inj hfinding).symm⟩

theorem keeps_drawn_judged (part : Part) {whenInvalid : Lookup (Option (Option Finding))}
    (hinvalid : Keeps (.free Registry) (DrawnRule dependency) (fun _ => True) whenInvalid) :
    Keeps (.free Registry) (DrawnRule dependency) (fun _ => True)
      (do match ← part.validity handle dependency.specifier with
        | .valid => return none
        | .indeterminate => return some none
        | .invalid => whenInvalid) := by
  refine (keeps_free _).bind fun validity _ => ?_
  cases validity with
  | valid => exact keeps_pure (.inl ⟨rfl, trivial⟩)
  | indeterminate =>
      exact keeps_pure (.inr ⟨none, rfl, fun _ hfound => absurd hfound (Option.not_mem_none _)⟩)
  | invalid => exact hinvalid

theorem keeps_drawn_author :
    Keeps (.free Registry) (DrawnRule dependency) (fun _ => True)
      (Rule.author handle dependency) := by
  refine keeps_drawn_judged .author ?_
  split
  · exact keeps_pure (.inr ⟨_, rfl, drawn_other (by decide) _ _⟩)
  · exact keeps_drawn_suggested .author

theorem keeps_drawn_package :
    Keeps (.free Registry) (DrawnRule dependency) (fun _ => True)
      (Rule.package handle dependency) := by
  refine keeps_drawn_judged .name ?_
  split
  · exact keeps_pure (.inr ⟨_, rfl, drawn_other (by decide) _ _⟩)
  · exact keeps_drawn_suggested .name

theorem keeps_drawn_requirement :
    Keeps (.free Registry) (DrawnRule dependency) (fun _ => True)
      (Rule.requirement handle dependency) := by
  unfold Rule.requirement
  dsimp only
  split
  · exact keeps_pure (.inr ⟨_, rfl, drawn_other (by decide) _ _⟩)
  · exact keeps_drawn_judged .requirement (keeps_drawn_suggested .requirement)

theorem keeps_drawn_placement (listed : Realm) :
    Keeps (.free Registry) (DrawnRule dependency) (fun _ => True)
      (Rule.placement handle dependency listed) := by
  refine (keeps_free _).bind fun record? _ => keeps_pure ?_
  cases hmisplaced : record?.bind (misplacement? dependency listed) with
  | none => exact .inl ⟨rfl, trivial⟩
  | some finding =>
      obtain ⟨record, -, hcorrected⟩ := Option.bind_eq_some_iff.mp hmisplaced
      obtain ⟨correction, -, rfl⟩ := Option.map_eq_some_iff.mp hcorrected
      exact .inr ⟨_, rfl, drawn_other (by decide) _ _⟩

theorem keeps_drawn_upgrade :
    Keeps (.free Registry) (Drawn dependency) (fun _ => True)
      (Rule.upgrade handle dependency) := by
  refine (keeps_free _).bind fun latest? _ => ?_
  split
  · next latest desired _ =>
    split
    · exact keeps_pure fun _ hfound => absurd hfound (Option.not_mem_none _)
    · refine (keeps_free _).bind fun order _ => ?_
      cases order with
      | gt => exact keeps_pure (drawn_other (by decide) _ _)
      | _ => exact keeps_pure fun _ hfound => absurd hfound (Option.not_mem_none _)
  · exact keeps_pure fun _ hfound => absurd hfound (Option.not_mem_none _)

/-- **The check of a dependency.**  What it suggests for a part that is not valid is
another text than that of the part. -/
theorem keeps_drawn_dependency (listed : Realm) :
    Keeps (.free Registry) (Drawn dependency) (fun _ => True)
      (Rule.dependency handle listed dependency) :=
  keeps_settle keeps_drawn_author fun _ => keeps_settle keeps_drawn_package fun _ =>
    keeps_settle keeps_drawn_requirement fun _ => keeps_settle (keeps_drawn_placement listed)
      fun _ => keeps_drawn_upgrade

/-! ## What may be reported -/

/-- What a finding may report as invalid. -/
inductive Subject where
  | realm
  | index
  | version
  | part (dependency : Dependency) (which : Part)
  deriving DecidableEq, Repr

namespace Subject

variable {manifest : Manifest}

/-- The code of the finding that it is not valid. -/
def code : Subject → Code
  | realm => .invalidRealm
  | index => .invalidRegistry
  | version => .invalidVersion
  | part _ which => which.code

/-- The text that is reported. -/
def text (manifest : Manifest) : Subject → String
  | realm => manifest.package.realm.text
  | index => manifest.package.registry.text
  | version => manifest.package.version.text
  | part dependency which => which.text dependency.specifier

/-- Where the text stands in the manifest. -/
def span (manifest : Manifest) : Subject → Toml.Span
  | realm => manifest.package.realm.valueSpan
  | index => manifest.package.registry.valueSpan
  | version => manifest.package.version.valueSpan
  | part dependency _ => dependency.valueSpan

/-- The check of a manifest that may report it. -/
inductive CheckedBy (manifest : Manifest) (client : Option Handle) :
    Subject → Lookup (Option Finding) → Prop where
  | realm : CheckedBy manifest client realm (pure (Rule.realm manifest))
  | index : CheckedBy manifest client index (Rule.index manifest)
  | version : CheckedBy manifest client version (pure (Rule.version manifest))
  | part {handle : Handle} {listed : Realm} {dependency : Dependency}
      (hclient : client = some handle)
      (hlisted : (listed, dependency) ∈ manifest.dependencies.items) (which : Part) :
      CheckedBy manifest client (.part dependency which) (Rule.dependency handle listed dependency)

end Subject

variable {manifest : Manifest} {client : Option Handle} {check : Lookup (Option Finding)}
  {world : World Registry} {instant : Instant Registry} {finding : Finding}

/-! ## What is found about the package -/

theorem index_mem_checks (manifest : Manifest) (client : Option Handle) :
    Rule.index manifest ∈ Rule.checks manifest client := by
  cases client <;> simp [Rule.checks]

theorem eq_of_realm (h : Rule.realm manifest = some finding) :
    manifest.package.realm.text ∉ Realm.names ∧
      finding = .of .invalidRealm manifest.package.realm.valueSpan
        [("REALM_NAME", some (closestRealm manifest.package.realm.text))] := by
  unfold Rule.realm at h
  dsimp only at h
  split at h
  · cases h
  · next hneither =>
      refine ⟨fun hname => hneither ?_, (Option.some.inj h).symm⟩
      rw [decide_eq_true hname, Bool.or_true]

theorem eq_of_version (h : Rule.version manifest = some finding) :
    finding = .of .invalidVersion manifest.package.version.valueSpan [] := by
  unfold Rule.version at h
  dsimp only at h
  split at h
  · cases h
  · exact (Option.some.inj h).symm

theorem keeps_drawn_index :
    Keeps (.free Registry)
      (fun found => ∀ finding ∈ found,
        finding = .of .invalidRegistry manifest.package.registry.valueSpan
          [("REGISTRY_NAME", closestIndex? manifest.package.registry.text)])
      (fun _ => True) (Rule.index manifest) := by
  unfold Rule.index
  dsimp only
  split
  · exact keeps_pure fun _ hfound => absurd hfound (Option.not_mem_none _)
  · refine (keeps_free (Lookup.find? _)).bind fun found _ => ?_
    cases found with
    | none =>
        refine (keeps_free (pure Validity.invalid : Lookup Validity)).bind fun validity _ => ?_
        split
        · exact keeps_pure fun _ hfound => absurd hfound (Option.not_mem_none _)
        · exact keeps_pure fun finding hfinding => (Option.some.inj hfinding).symm
    | some handle =>
        refine (keeps_free (Lookup.reachable handle)).bind fun validity _ => ?_
        split
        · exact keeps_pure fun _ hfound => absurd hfound (Option.not_mem_none _)
        · exact keeps_pure fun finding hfinding => (Option.some.inj hfinding).symm

/-! ## Whole checks -/

/-- What a check finds to be invalid is one of what it looks at. -/
theorem exists_subject (hcheck : check ∈ Rule.checks manifest client)
    (hended : instant.ended world check = .ok (some finding))
    (hinvalid : finding.code ∈ Code.invalid) :
    ∃ subject : Subject, subject.CheckedBy manifest client check ∧
      subject.code = finding.code := by
  have hfields : check ∈ [pure (Rule.realm manifest), Rule.index manifest,
      pure (Rule.version manifest)] → ∃ subject : Subject,
        subject.CheckedBy manifest client check ∧ subject.code = finding.code := by
    simp only [List.mem_cons, List.not_mem_nil, or_false]
    rintro (rfl | rfl | rfl)
    · obtain ⟨-, rfl⟩ := eq_of_realm (Except.ok.inj hended)
      exact ⟨.realm, .realm, rfl⟩
    · obtain rfl := keeps_drawn_index.of_free hended finding rfl
      exact ⟨.index, .index, rfl⟩
    · obtain rfl := eq_of_version (Except.ok.inj hended)
      exact ⟨.version, .version, rfl⟩
  cases client with
  | none => exact hfields hcheck
  | some handle =>
      rcases List.mem_append.mp hcheck with hfield | hdependency
      · exact hfields hfield
      · obtain ⟨⟨listed, dependency⟩, hlisted, rfl⟩ := List.mem_map.mp hdependency
        obtain ⟨part, options, rfl⟩ :=
          (keeps_drawn_dependency listed).of_free hended finding rfl hinvalid
        exact ⟨.part dependency part, .part rfl hlisted part, rfl⟩

/-- **Suggestions that repeat what was written.**  Let a check of a manifest find that
something is not valid, whatever the indexes reply and whatever others do meanwhile.
Then it is one of the things that the check looks at, and stands where the finding does;
and the finding suggests its very text if and only if it is the index of the package, and
named by the address of the public index. -/
theorem suggests_own_text_iff (hcheck : check ∈ Rule.checks manifest client)
    (hended : instant.ended world check = .ok (some finding))
    (hinvalid : finding.code ∈ Code.invalid) :
    (∃ subject : Subject, subject.CheckedBy manifest client check ∧
      subject.code = finding.code) ∧
    ∀ subject : Subject, subject.CheckedBy manifest client check →
      subject.code = finding.code →
        finding.span = subject.span manifest ∧
          (finding.Suggests (subject.text manifest) ↔
            subject = .index ∧ manifest.package.registry.text = publicIndexUrl) := by
  refine ⟨exists_subject hcheck hended hinvalid, fun subject hchecked hcode => ?_⟩
  cases hchecked with
  | realm =>
      obtain ⟨hother, rfl⟩ := eq_of_realm (Except.ok.inj hended)
      refine ⟨rfl, fun hsuggests => ?_, nofun⟩
      obtain ⟨-, hsame⟩ := Finding.suggests_of_iff.mp hsuggests
      have hmem := closestRealm_mem manifest.package.realm.text
      rw [Option.some.inj hsame] at hmem
      exact absurd hmem hother
  | index =>
      obtain rfl := keeps_drawn_index.of_free hended finding rfl
      refine ⟨rfl, fun hsuggests => ?_, fun hpublic => ?_⟩
      · obtain ⟨-, hsame⟩ := Finding.suggests_of_iff.mp hsuggests
        exact ⟨rfl, eq_public_of_closestIndex? hsame⟩
      · refine Finding.suggests_of_iff.mpr ?_
        rw [Subject.text, hpublic.2]
        exact ⟨by decide, closestIndex?_public⟩
  | version =>
      obtain rfl := eq_of_version (Except.ok.inj hended)
      refine ⟨rfl, fun hsuggests => ?_, nofun⟩
      obtain ⟨-, name, hmem⟩ := hsuggests
      cases hmem
  | part hclient hlisted which =>
      obtain ⟨other, options, rfl⟩ :=
        (keeps_drawn_dependency _).of_free hended finding rfl hinvalid
      obtain rfl : which = other := Part.code_inj hcode
      refine ⟨rfl, fun hsuggests => ?_, nofun⟩
      obtain ⟨-, hsame⟩ := Finding.suggests_of_iff.mp hsuggests
      exact absurd rfl (mem_of_closestOther? hsame).2

end Rule

/-! ## A host without the public index -/

namespace Unfound

/-- The manifest of a package that names an index. -/
def manifest (url : String) : Manifest := { package.registry := { key := "registry", text := url } }

/-- Nothing is found. -/
def answer (_ : Request) : Reply := .ok { status := 404, message := "Not found" }

/-- A new registry with the usual cooldown. -/
def start : Instant Registry := ⟨.new {} (some defaultCooldown) none, 0⟩

/-- The finding that the index of a package is not valid, with the public one as
suggestion. -/
def finding : Finding := .of .invalidRegistry .empty [("REGISTRY_NAME", some publicIndexUrl)]

end Unfound

open Unfound in
/-- A part of the address of the public index is completed, and not repeated. -/
theorem partial_address_completed :
    let written := manifest "https://github.com/UpliftGames"
    Rule.index written ∈ Rule.checks written (Handle.find? written.indexUrl) ∧
      start.ended (.steady answer) (Rule.index written) = .ok (some finding) ∧
      finding.code ∈ Code.invalid ∧ finding.Suggests publicIndexUrl ∧
      ¬ finding.Suggests "https://github.com/UpliftGames" := by
  intro written
  have hcheck := Rule.index_mem_checks written (Handle.find? written.indexUrl)
  have hended : start.ended (.steady answer) (Rule.index written) = .ok (some finding) :=
    eq_ok_of_toOption (by decide +kernel)
  have hinvalid : finding.code ∈ Code.invalid := by decide
  obtain ⟨-, hsubjects⟩ := Rule.suggests_own_text_iff hcheck hended hinvalid
  obtain ⟨-, hown⟩ := hsubjects .index .index rfl
  refine ⟨hcheck, hended, hinvalid, Finding.suggests_of_iff.mpr ⟨by decide, rfl⟩, fun hsame => ?_⟩
  obtain ⟨-, hpublic⟩ := hown.mp hsame
  exact absurd hpublic (by decide)

open Unfound in
/-- The address of the public index itself is reported as invalid, and suggested. -/
theorem public_address_repeated :
    let written := manifest publicIndexUrl
    Rule.index written ∈ Rule.checks written (Handle.find? written.indexUrl) ∧
      start.ended (.steady answer) (Rule.index written) = .ok (some finding) ∧
      finding.code = .invalidRegistry ∧ finding.Suggests written.package.registry.text ∧
      finding.message = "Invalid package registry.\nDid you mean `" ++
        written.package.registry.text ++ "`?" := by
  intro written
  refine ⟨Rule.index_mem_checks _ _, eq_ok_of_toOption (by decide +kernel), rfl, ?_, ?_⟩
  · exact Finding.suggests_of_iff.mpr ⟨by decide, rfl⟩
  · decide +kernel

end ManifestLint
