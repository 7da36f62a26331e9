/-
Module: ServersManager.ImageReferences
Purpose: That an image reference is split into repository and tag, and joined again by
  the dashboard, without a loss.
Trusted boundary: human-reviewed grammar of a foreign program
Main exports:
  ImageReference, currentImageTag, splitImageAndTag_path, splitImageAndTag_rejoined
-/
import ServersManager.DockerPs

namespace ServersManager

/-! ### The grammar -/

/-- None of these characters occurs in the text. -/
def Lacks (text : String) (excluded : List Char) : Prop :=
  ∀ c ∈ text.toList, c ∉ excluded

/-- A reference `[domain[:port]/]component(/component)*[:tag][@digest]`. -/
structure ImageReference where
  domain : Option (String × Option String)
  component : String
  components : List String
  tag : Option String
  digest : Option String
  domainLacks : ∀ name port, domain = some (name, port) →
    Lacks name ['/', '@'] ∧ ∀ number, port = some number → Lacks number ['/', '@']
  componentLacks : ∀ part ∈ component :: components, Lacks part [':', '/', '@']
  tagLacks : ∀ text, tag = some text → text ≠ "" ∧ Lacks text [':', '/', '@']

namespace ImageReference

variable (reference : ImageReference)

/-- The domain, with its port and the slash after it. -/
def registry : String :=
  match reference.domain with
  | none => ""
  | some (name, none) => name ++ "/"
  | some (name, some port) => name ++ ":" ++ port ++ "/"

/-- The part before the tag. -/
def path : String :=
  reference.registry ++ "/".intercalate (reference.component :: reference.components)

def tagText : String :=
  match reference.tag with
  | none => ""
  | some tag => ":" ++ tag

def digestText : String :=
  match reference.digest with
  | none => ""
  | some digest => "@" ++ digest

def text : String :=
  reference.path ++ reference.tagText ++ reference.digestText

end ImageReference

/-! ### `routes/ServiceDetailPage.tsx` -/

/-- `${data.image}${data.current_tag ? `:${data.current_tag}` : ''}`. -/
def currentImageTag (image : String) (currentTag : Option String) : String :=
  image ++
    match currentTag.filter (· ≠ "") with
    | some tag => ":" ++ tag
    | none => ""

/-! ### The last colon after the last slash -/

section LastIndex

variable {α : Type} {sought : α → Bool}

theorem lastIndexOf_eq_none {items : List α} (absent : ∀ item ∈ items, sought item = false) :
    lastIndexOf sought items = none := by
  rw [lastIndexOf, List.findIdx?_eq_none_iff.mpr, Option.map_none]
  intro item member
  rw [absent item (List.mem_reverse.mp member)]

theorem lastIndexOf_append {front back : List α} {item : α} (found : sought item = true)
    (absent : ∀ other ∈ back, sought other = false) :
    lastIndexOf sought (front ++ item :: back) = some front.length := by
  have index : (front ++ item :: back).reverse.findIdx? sought = some back.length := by
    rw [List.reverse_append, List.reverse_cons, List.append_assoc, List.findIdx?_append,
      List.findIdx?_eq_none_iff.mpr]
    · simp [List.findIdx?_cons, found]
    · intro other member
      rw [absent other (List.mem_reverse.mp member)]
  rw [lastIndexOf, index]
  simp

end LastIndex

/-- A path is what ends in a slash, if anything, and a last component. -/
theorem tagColon_segment {front back : List Char} (plain : ∀ c ∈ front ++ back, c ≠ '@')
    (start : front = [] ∨ ∃ before, front = before ++ ['/'])
    (segment : ∀ c ∈ back, c ≠ '/') :
    tagColon (· == '@') (· == '/') (· == ':') (front ++ back) =
      (lastIndexOf (· == ':') back).map (front.length + ·) := by
  have noAt : (front ++ back).any (· == '@') = false := by
    rw [List.any_eq_false]
    intro c member
    simpa using plain c member
  have noSlash : ∀ c ∈ back, (c == '/') = false := by
    intro c member
    simpa using segment c member
  rw [tagColon, noAt]
  rcases start with rfl | ⟨before, rfl⟩
  · simp [lastIndexOf_eq_none noSlash]
  · have last : lastIndexOf (· == '/') (before ++ '/' :: back) = some before.length :=
      lastIndexOf_append rfl noSlash
    have tail : (before ++ '/' :: back).drop (before.length + 1) = back := by
      rw [List.append_cons, List.drop_left' (by simp)]
    simp only [List.append_assoc, List.singleton_append, last, tail, List.length_append,
      List.length_singleton, Bool.false_eq_true, if_false]

namespace ImageReference

variable (reference : ImageReference)

private theorem registry_plain : ∀ c ∈ reference.registry.toList, c ≠ '@' := by
  intro c member
  unfold registry at member
  split at member
  · cases member
  · next name same =>
    obtain ⟨nameLacks, -⟩ := reference.domainLacks name none same
    rw [String.toList_append, List.mem_append] at member
    rintro rfl
    rcases member with inName | slash
    · exact nameLacks _ inName (by simp)
    · simp at slash
  · next name port same =>
    obtain ⟨nameLacks, portLacks⟩ := reference.domainLacks name (some port) same
    simp only [String.toList_append, List.mem_append] at member
    rintro rfl
    rcases member with ((inName | colon) | inPort) | slash
    · exact nameLacks _ inName (by simp)
    · simp at colon
    · exact portLacks port rfl _ inPort (by simp)
    · simp at slash

private theorem registry_start : reference.registry.toList = [] ∨
    ∃ before, reference.registry.toList = before ++ ['/'] := by
  unfold registry
  split
  · exact .inl rfl
  · exact .inr ⟨_, String.toList_append⟩
  · exact .inr ⟨_, String.toList_append⟩

/-- The components are those before the last slash and the last one. -/
private theorem components_split (components : List String) :
    ∀ component, (∀ part ∈ component :: components, Lacks part [':', '/', '@']) →
      ∃ front back, ("/".intercalate (component :: components)).toList = front ++ back ∧
        (front = [] ∨ ∃ before, front = before ++ ['/']) ∧ (∀ c ∈ front, c ≠ '@') ∧
        ∀ c ∈ back, c ∉ [':', '/', '@'] := by
  induction components with
  | nil =>
      intro component lacks
      refine ⟨[], component.toList, by simp, .inl rfl, nofun, lacks component (.head _)⟩
  | cons next components inductionHypothesis =>
      intro component lacks
      obtain ⟨front, back, split, start, plain, last⟩ :=
        inductionHypothesis next fun part member => lacks part (.tail _ member)
      refine ⟨component.toList ++ '/' :: front, back, ?_, .inr ?_, ?_, last⟩
      · rw [String.intercalate_cons_cons, String.toList_append, String.toList_append, split]
        simp
      · rcases start with rfl | ⟨before, rfl⟩
        · exact ⟨component.toList, rfl⟩
        · exact ⟨component.toList ++ '/' :: before, by simp⟩
      · intro c member
        rcases List.mem_append.mp member with inComponent | later
        · rintro rfl
          exact lacks component (.head _) _ inComponent (by simp)
        · rcases List.mem_cons.mp later with rfl | inFront
          · decide
          · exact plain c inFront

/-- The path is a front that ends in a slash, if it is not empty, and a component. -/
private theorem path_split : ∃ front back, reference.path.toList = front ++ back ∧
    (front = [] ∨ ∃ before, front = before ++ ['/']) ∧ (∀ c ∈ front, c ≠ '@') ∧
    ∀ c ∈ back, c ∉ [':', '/', '@'] := by
  obtain ⟨front, back, split, start, plain, last⟩ :=
    components_split reference.components reference.component reference.componentLacks
  refine ⟨reference.registry.toList ++ front, back, ?_, ?_, ?_, last⟩
  · rw [path, String.toList_append, split, List.append_assoc]
  · rcases start with rfl | ⟨before, rfl⟩
    · rw [List.append_nil]
      exact reference.registry_start
    · exact .inr ⟨reference.registry.toList ++ before, (List.append_assoc _ _ _).symm⟩
  · intro c member
    rcases List.mem_append.mp member with inRegistry | inFront
    · exact reference.registry_plain c inRegistry
    · exact plain c inFront

/-- What is expected: the part before the tag and the tag, where there is a tag and no
digest, and the whole reference otherwise. -/
def expectedSplit : ImageAndTag :=
  match reference.tag, reference.digest with
  | some tag, none => { image := reference.path, tag := some tag }
  | _, _ => { image := reference.text, tag := none }

/-- Nothing in the path itself is taken for the colon before a tag. -/
private theorem tagColon_untagged :
    tagColon (· == '@') (· == '/') (· == ':') reference.path.toList = none := by
  obtain ⟨front, back, split, start, plain, last⟩ := reference.path_split
  rw [split, tagColon_segment _ start, lastIndexOf_eq_none, Option.map_none]
  · intro c member
    simpa using fun same : c = ':' => last c member (by simp [same])
  · intro c member
    simpa using fun same : c = '/' => last c member (by simp [same])
  · intro c member
    rcases List.mem_append.mp member with inFront | inBack
    · exact plain c inFront
    · rintro rfl
      exact last _ inBack (by simp)

private theorem tagColon_tagged {tag : String} (lacks : Lacks tag [':', '/', '@']) :
    tagColon (· == '@') (· == '/') (· == ':') (reference.path.toList ++ ':' :: tag.toList) =
      some reference.path.toList.length := by
  obtain ⟨front, back, split, start, plain, last⟩ := reference.path_split
  have segment : ∀ c ∈ back ++ ':' :: tag.toList, c ≠ '@' ∧ c ≠ '/' := by
    intro c member
    have excluded : c ∉ ['/', '@'] := by
      rcases List.mem_append.mp member with inBack | inTag
      · exact fun absent => last c inBack (.tail _ absent)
      · rcases List.mem_cons.mp inTag with rfl | inTag
        · decide
        · exact fun absent => lacks c inTag (.tail _ absent)
    constructor
    · rintro rfl
      exact excluded (by simp)
    · rintro rfl
      exact excluded (by simp)
  rw [split, List.append_assoc, tagColon_segment _ start fun c member => (segment c member).2,
    lastIndexOf_append rfl]
  · simp
  · intro c member
    simpa using fun same : c = ':' => lacks c member (by simp [same])
  · intro c member
    rcases List.mem_append.mp member with inFront | inSegment
    · exact plain c inFront
    · exact (segment c inSegment).1

/-- A reference is split before its tag, if it has one and no digest. -/
theorem splitImageAndTag_path : splitImageAndTag reference.text = reference.expectedSplit := by
  cases hasDigest : reference.digest with
  | some digest =>
      have found : reference.text.toList.any (· == '@') = true := by
        simp [text, digestText, hasDigest]
      have whole : tagColon (· == '@') (· == '/') (· == ':') reference.text.toList = none := by
        rw [tagColon, if_pos found]
      rw [splitImageAndTag, whole]
      simp [expectedSplit, hasDigest]
  | none =>
      cases hasTag : reference.tag with
      | none =>
          have chars : reference.text = reference.path := by
            simp [text, tagText, digestText, hasDigest, hasTag]
          rw [splitImageAndTag, chars, reference.tagColon_untagged]
          simp [expectedSplit, hasTag, chars]
      | some tag =>
          have chars : reference.text.toList = reference.path.toList ++ ':' :: tag.toList := by
            simp [text, tagText, digestText, hasDigest, hasTag]
          rw [splitImageAndTag, chars,
            reference.tagColon_tagged (reference.tagLacks tag hasTag).2]
          simp [expectedSplit, hasTag, hasDigest]

/-- Joined again, the two parts of an expected split are the reference. -/
theorem currentImageTag_expectedSplit :
    currentImageTag reference.expectedSplit.image reference.expectedSplit.tag =
      reference.text := by
  cases hasTag : reference.tag with
  | none => simp [expectedSplit, currentImageTag, hasTag]
  | some tag =>
      cases hasDigest : reference.digest with
      | some digest => simp [expectedSplit, currentImageTag, hasTag, hasDigest]
      | none =>
          have present : (some tag).filter (· ≠ "") = some tag := by
            simp [(reference.tagLacks tag hasTag).1]
          simp only [expectedSplit, hasTag, hasDigest, currentImageTag, present]
          simp [text, tagText, digestText, hasTag, hasDigest]

end ImageReference

/-- A reference is split as expected and joined again without a loss, so no other
reference is split the same way. -/
theorem splitImageAndTag_rejoined (reference : ImageReference) :
    splitImageAndTag reference.text = reference.expectedSplit ∧
      currentImageTag (splitImageAndTag reference.text).image
          (splitImageAndTag reference.text).tag = reference.text ∧
      ∀ other : ImageReference,
        splitImageAndTag other.text = splitImageAndTag reference.text →
          other.text = reference.text := by
  have rejoins : ∀ any : ImageReference,
      currentImageTag (splitImageAndTag any.text).image (splitImageAndTag any.text).tag =
        any.text := by
    intro any
    rw [any.splitImageAndTag_path, any.currentImageTag_expectedSplit]
  refine ⟨reference.splitImageAndTag_path, rejoins reference, ?_⟩
  intro other same
  rw [← rejoins other, same, rejoins reference]

/-- The port of a registry is no tag. -/
example : splitImageAndTag "registry.local:5000/team/web:1.25" =
    { image := "registry.local:5000/team/web", tag := some "1.25" } := by decide +kernel

end ServersManager
