import DeskScript.Node
import DeskScript.Token

/-!
Operands with operators between them, and the ways to group them. `Chain.split` groups a chain by
taking it apart at the rightmost of the operators that bind loosest, and so on in both parts. Main
statement: that is the only grouping with the operands and operators in order in which left parts
bind at least as tightly as the operator between the parts, and right parts tighter.
-/

namespace DeskScript

namespace Chain

structure Operator where
  token : Token
  level : Nat
  binds : token.precedence? = some level

structure Operand where
  tokens : List Token
  node : Node

structure Link where
  operator : Operator
  operand : Operand

end Chain

structure Chain where
  first : Chain.Operand
  links : List Chain.Link

/-- A way to take a chain apart into operations with two parts each. -/
inductive Grouping where
  | single (operand : Chain.Operand)
  | joined (operator : Chain.Operator) (left right : Grouping)

namespace Chain

variable {link : Link} {links before after : List Link} {follow : Token}

def linkTokens (links : List Link) : List Token :=
  links.flatMap fun link => link.operator.token :: link.operand.tokens

def tokens (chain : Chain) : List Token :=
  chain.first.tokens ++ linkTokens chain.links

@[simp] theorem linkTokens_nil : linkTokens [] = [] := rfl

@[simp] theorem linkTokens_cons (link : Link) (links : List Link) :
    linkTokens (link :: links) =
      link.operator.token :: (link.operand.tokens ++ linkTokens links) := rfl

@[simp] theorem linkTokens_append (before after : List Link) :
    linkTokens (before ++ after) = linkTokens before ++ linkTokens after :=
  List.flatMap_append

def Each (P : Operand → Token → Prop) (follow : Token) : Operand → List Link → Prop
  | first, [] => P first follow
  | first, link :: links => P first link.operator.token ∧ Each P follow link.operand links

theorem each_append {P : Operand → Token → Prop} {first : Operand} :
    Each P follow first (before ++ link :: after) ↔
      Each P link.operator.token first before ∧ Each P follow link.operand after := by
  induction before generalizing first with
  | nil => rfl
  | cons other before ih => simp only [List.cons_append, Each, ih, and_assoc]

theorem Each.head {P : Operand → Token → Prop} {first : Operand} (h : Each P follow first links)
    (rest : List Token) :
    ∃ next others, linkTokens links ++ follow :: rest = next :: others ∧ P first next := by
  cases links with
  | nil => exact ⟨_, _, rfl, h⟩
  | cons link links => exact ⟨_, _, rfl, h.1⟩

theorem Each.tail {P : Operand → Token → Prop} {first : Operand} (h : Each P follow first links) :
    ∀ link more, links = link :: more → Each P follow link.operand more := by
  rintro link more rfl
  exact h.2

def operands (chain : Chain) : List Operand :=
  chain.first :: chain.links.map (·.operand)

theorem Each.mono {P Q : Operand → Token → Prop} {first : Operand}
    (imp : ∀ operand ∈ operands ⟨first, links⟩, ∀ next, P operand next → Q operand next)
    (h : Each P follow first links) : Each Q follow first links := by
  induction links generalizing first with
  | nil => exact imp first List.mem_cons_self follow h
  | cons link links ih =>
    obtain ⟨here, later⟩ := List.forall_mem_cons.1 imp
    exact ⟨here _ h.1, ih later h.2⟩

/-- Takes a chain apart at the rightmost of the operators that bind loosest. -/
def cut : List Link → Option (List Link × Link × List Link)
  | [] => none
  | link :: links =>
    match cut links with
    | none => some ([], link, [])
    | some (before, loosest, after) =>
      if link.operator.level < loosest.operator.level then some ([], link, links)
      else some (link :: before, loosest, after)

/-- The operator between the parts binds no tighter than those before it and looser than those
after it. -/
structure Loosest (before : List Link) (link : Link) (after : List Link) : Prop where
  before : ∀ other ∈ before, link.operator.level ≤ other.operator.level
  after : ∀ other ∈ after, link.operator.level < other.operator.level

theorem cut_eq_none (h : cut links = none) : links = [] := by
  cases links with
  | nil => rfl
  | cons link links =>
    rw [cut] at h
    split at h
    · cases h
    · split at h <;> cases h

theorem cut_eq_some (h : cut links = some (before, link, after)) :
    links = before ++ link :: after ∧ Loosest before link after := by
  induction links generalizing before link after with
  | nil => cases h
  | cons first links ih =>
    rw [cut] at h
    split at h
    next whole =>
      obtain rfl := cut_eq_none whole
      cases h
      exact ⟨rfl, by simp, by simp⟩
    next parts =>
      obtain ⟨rfl, loosest⟩ := ih parts
      split at h
      -- the first operator is looser than the one at which the others are cut
      next looser =>
        cases h
        refine ⟨rfl, by simp, fun other mem => ?_⟩
        rcases List.mem_append.1 mem with mem | mem
        · exact Nat.lt_of_lt_of_le looser (loosest.before other mem)
        · rcases List.mem_cons.1 mem with rfl | mem
          · exact looser
          · exact Nat.lt_trans looser (loosest.after other mem)
      next tighter =>
        cases h
        exact ⟨rfl, List.forall_mem_cons.2 ⟨Nat.le_of_not_lt tighter, loosest.before⟩,
          loosest.after⟩

theorem cut_of_loosest (loosest : Loosest before link after) :
    cut (before ++ link :: after) = some (before, link, after) := by
  induction before with
  | nil =>
    rw [List.nil_append, cut]
    split
    next whole => rw [cut_eq_none whole]
    next parts =>
      have mem := (cut_eq_some parts).1 ▸ List.mem_append_right _ List.mem_cons_self
      rw [if_pos (loosest.after _ mem)]
  | cons other before ih =>
    obtain ⟨le, others⟩ := List.forall_mem_cons.1 loosest.before
    rw [List.cons_append, cut, ih ⟨others, loosest.after⟩]
    exact if_neg (Nat.not_lt.2 le)

/-- The grouping of a chain in which the rightmost of the operators that bind loosest is applied
last, and so on in both of its parts. -/
def splitFrom (first : Operand) (links : List Link) : Grouping :=
  match h : cut links with
  | none => .single first
  | some (before, link, after) =>
    have : links.length = before.length + (after.length + 1) := by
      rw [(cut_eq_some h).1, List.length_append, List.length_cons]
    .joined link.operator (splitFrom first before) (splitFrom link.operand after)
termination_by links.length

def split (chain : Chain) : Grouping :=
  splitFrom chain.first chain.links

theorem splitFrom_nil (first : Operand) : splitFrom first [] = .single first := by
  rw [splitFrom]
  rfl

theorem splitFrom_of_cut {first : Operand} (h : cut links = some (before, link, after)) :
    splitFrom first links =
      .joined link.operator (splitFrom first before) (splitFrom link.operand after) := by
  rw [splitFrom]
  split
  next whole => cases h.symm.trans whole
  next parts =>
    cases h.symm.trans parts
    rfl

end Chain

namespace Grouping

open Chain (Operand Operator Link)

variable {grouping left right : Grouping} {operator : Operator} {level least : Nat}

def node : Grouping → Node
  | .single operand => operand.node
  | .joined operator left right =>
    .binaryOperation operator.token.operatorName left.node right.node

def first : Grouping → Operand
  | .single operand => operand
  | .joined _ left _ => left.first

def links : Grouping → List Link
  | .single _ => []
  | .joined operator left right => left.links ++ ⟨operator, right.first⟩ :: right.links

def inOrder (grouping : Grouping) : Chain :=
  ⟨grouping.first, grouping.links⟩

def AtLeast (least : Nat) : Grouping → Prop
  | .single _ => True
  | .joined operator _ _ => least ≤ operator.level

/-- In every operation the left part binds at least as tightly as the operator, and the right part
tighter. -/
def Grouped : Grouping → Prop
  | .single _ => True
  | .joined operator left right =>
    left.AtLeast operator.level ∧ right.AtLeast (operator.level + 1) ∧ left.Grouped ∧ right.Grouped

theorem AtLeast.mono (h : grouping.AtLeast level) (le : least ≤ level) :
    grouping.AtLeast least := by
  cases grouping with
  | single operand => trivial
  | joined operator left right => exact Nat.le_trans le h

theorem Grouped.le_level (grouped : grouping.Grouped) (h : grouping.AtLeast least) :
    ∀ link ∈ grouping.links, least ≤ link.operator.level := by
  induction grouping generalizing least with
  | single operand => exact List.forall_mem_nil _
  | joined operator left right ihl ihr =>
    obtain ⟨loose, tight, groupedLeft, groupedRight⟩ := grouped
    intro link mem
    rcases List.mem_append.1 mem with mem | mem
    · exact Nat.le_trans h (ihl groupedLeft loose link mem)
    · rcases List.mem_cons.1 mem with rfl | mem
      · exact h
      · exact Nat.le_trans h (Nat.le_of_succ_le (ihr groupedRight tight link mem))

theorem Grouped.splitFrom_eq (grouped : grouping.Grouped) :
    Chain.splitFrom grouping.first grouping.links = grouping := by
  induction grouping with
  | single operand => exact Chain.splitFrom_nil operand
  | joined operator left right ihl ihr =>
    obtain ⟨loose, tight, groupedLeft, groupedRight⟩ := grouped
    have loosest : Chain.Loosest left.links ⟨operator, right.first⟩ right.links :=
      ⟨groupedLeft.le_level loose, groupedRight.le_level tight⟩
    rw [first, links, Chain.splitFrom_of_cut (Chain.cut_of_loosest loosest), ihl groupedLeft,
      ihr groupedRight]

end Grouping

namespace Chain

open Grouping

theorem splitFrom_first (first : Operand) (links : List Link) :
    (splitFrom first links).first = first := by
  fun_induction splitFrom first links with
  | case1 first links whole => rfl
  | case2 first links before link after parts _ ih _ => exact ih

theorem splitFrom_links (first : Operand) (links : List Link) :
    (splitFrom first links).links = links := by
  fun_induction splitFrom first links with
  | case1 first links whole => exact (cut_eq_none whole).symm
  | case2 first links before link after parts _ ihl ihr =>
    rw [Grouping.links, ihl, ihr, splitFrom_first, (cut_eq_some parts).1]

theorem splitFrom_atLeast {first : Operand} {links : List Link} {least : Nat}
    (tight : ∀ link ∈ links, least ≤ link.operator.level) :
    (splitFrom first links).AtLeast least := by
  cases parts : cut links with
  | none =>
    rw [cut_eq_none parts, splitFrom_nil]
    trivial
  | some part =>
    obtain ⟨before, link, after⟩ := part
    rw [splitFrom_of_cut parts]
    exact tight link ((cut_eq_some parts).1 ▸ List.mem_append_right _ List.mem_cons_self)

theorem splitFrom_grouped (first : Operand) (links : List Link) :
    (splitFrom first links).Grouped := by
  fun_induction splitFrom first links with
  | case1 first links whole => trivial
  | case2 first links before link after parts _ ihl ihr =>
    have loosest := (cut_eq_some parts).2
    exact ⟨splitFrom_atLeast loosest.before, splitFrom_atLeast loosest.after, ihl, ihr⟩

theorem split_eq_iff {chain : Chain} {grouping : Grouping} :
    chain.split = grouping ↔ grouping.inOrder = chain ∧ grouping.Grouped := by
  constructor
  · rintro rfl
    refine ⟨?_, splitFrom_grouped _ _⟩
    rw [inOrder, split, splitFrom_first, splitFrom_links]
  · rintro ⟨rfl, grouped⟩
    exact grouped.splitFrom_eq

end Chain

end DeskScript
