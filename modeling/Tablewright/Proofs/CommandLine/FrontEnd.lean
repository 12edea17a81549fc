import Tablewright.Proofs.CommandLine.Flags
import Tablewright.Proofs.Run.Writing

/-!
# The command line as a front end

What lasts of a session is its status and the tree that it leaves behind. A misuse and a request for
help touch no file, and anything else is loading settings and generating with them. Flags and the
terminal have no part in this.
-/

namespace Tablewright.CommandLine

/-- The status of a session and the tree that it leaves behind. -/
def lasting
    (texts : List String)
    (terminal : Bool)
    (surroundings : Run.Surroundings)
    (tree : Files.Tree) : Nat × Files.Tree :=
  ((follow texts terminal surroundings tree).1.status,
    (follow texts terminal surroundings tree).2)

/-- What is to last of a session for a request. -/
def Request.lasting
    (surroundings : Run.Surroundings)
    (tree : Files.Tree) : Request → Nat × Files.Tree
  | .help => (0, tree)
  | .run arguments => loadThenGenerate arguments surroundings tree

/-- The second command line is the first one without some of its flags, or with others for them. -/
def AreLike
    (texts plain : List String) : Prop :=
  ∃ words plainWords,
    Word.ofTexts texts = .ok words ∧
      Word.ofTexts plain = .ok plainWords ∧ DropsFlags false words plainWords

section Sessions

variable {texts plain : List String}
variable (terminal : Bool)
variable (surroundings : Run.Surroundings)
variable (tree : Files.Tree)

/-- What lasts of a session for a request. -/
theorem lasting_of_request
    {request : Request}
    (asks : Request.ofTexts texts = .ok request) :
    lasting texts terminal surroundings tree = request.lasting surroundings tree := by
  unfold lasting follow
  rw [asks]
  cases request with
  | help =>
      rfl
  | run arguments =>
      exact (carryOut_eq arguments terminal surroundings tree).trans
        (loadThenGenerate_eq arguments surroundings tree).symm

/-- What lasts of a session for a misuse. -/
theorem lasting_of_misuse
    {misuse : Misuse}
    (misused : Request.ofTexts texts = .error misuse) :
    lasting texts terminal surroundings tree = (1, tree) := by
  unfold lasting follow
  rw [misused]

end Sessions

/-- The same lasts of sessions for requests that differ in flags only. -/
theorem Request.IsLike.lasting_eq
    {request other : Request}
    (like : request.IsLike other)
    (surroundings : Run.Surroundings)
    (tree : Files.Tree) :
    request.lasting surroundings tree = other.lasting surroundings tree := by
  cases like with
  | help =>
      rfl
  | run schema output config =>
      rw [Request.lasting, Request.lasting, loadThenGenerate_congr schema output config]

/-- Where a command line is accepted, one that differs from it in flags asks for the same. -/
theorem AreLike.exists_request
    {texts plain : List String}
    (alike : AreLike texts plain)
    {request : Request}
    (asks : Request.ofTexts texts = .ok request) :
    ∃ also, Request.ofTexts plain = .ok also ∧ request.IsLike also := by
  obtain ⟨words, plainWords, reads, readsPlain, drops⟩ := alike
  unfold Request.ofTexts at asks ⊢
  rw [reads] at asks
  rw [readsPlain]
  obtain ⟨also, asksAlso, same⟩ := drops.follow_like (.refl _) asks
  rw [followFrom_false] at asksAlso
  exact ⟨also, asksAlso, same⟩

/-- A misuse makes a session end with status one and a request for help with status zero, and both
leave all files as they are. Any other session does what loading its settings and then generating
with them do, and its status says whether both succeed. Flags and the terminal make no difference,
except that a flag between an operand and two separators in a row may not be taken out. -/
theorem session_is_loadThenGenerate
    (texts : List String)
    (terminal : Bool)
    (surroundings : Run.Surroundings)
    (tree : Files.Tree) :
    lasting texts terminal surroundings tree =
        (match Request.ofTexts texts with
          | .error _ => (1, tree)
          | .ok .help => (0, tree)
          | .ok (.run arguments) => loadThenGenerate arguments surroundings tree) ∧
      ∀ request plain otherTerminal,
        Request.ofTexts texts = .ok request →
        AreLike texts plain →
        lasting plain otherTerminal surroundings tree =
          lasting texts terminal surroundings tree := by
  constructor
  · cases asks : Request.ofTexts texts with
    | error misuse =>
        exact lasting_of_misuse terminal surroundings tree asks
    | ok request =>
        rw [lasting_of_request terminal surroundings tree asks]
        cases request <;> rfl
  · intro request plain otherTerminal asks alike
    obtain ⟨also, asksAlso, like⟩ := alike.exists_request asks
    rw [lasting_of_request otherTerminal surroundings tree asksAlso,
      lasting_of_request terminal surroundings tree asks,
      like.lasting_eq surroundings tree]

/-- A command line with a flag between its operands is like the one without it. -/
theorem areLike_of_verbose :
    AreLike ["s.ts", "-v", "api.py"] ["s.ts", "api.py"] :=
  ⟨[.operand "s.ts", .option ⟨.verbose, true, none⟩, .operand "api.py"],
    [.operand "s.ts", .operand "api.py"], rfl, rfl,
    .operand (by decide) (.flag (options_of_flag rfl true) rfl (.operand (by decide) .nil))⟩

/-- A session that is to say more, and one on a terminal that is not, do the same. -/
theorem session_is_loadThenGenerate_of_verbose :
    Request.ofTexts ["s.ts", "-v", "api.py"] =
        .ok (.run ⟨some "s.ts", some "api.py", none, true, false⟩) ∧
      AreLike ["s.ts", "-v", "api.py"] ["s.ts", "api.py"] ∧
      lasting ["s.ts", "api.py"] true ⟨["w"], .works⟩ (Run.treeWithSchema "type D={}") =
        lasting ["s.ts", "-v", "api.py"] false ⟨["w"], .works⟩
          (Run.treeWithSchema "type D={}") :=
  have asks :
      Request.ofTexts ["s.ts", "-v", "api.py"] =
        .ok (.run ⟨some "s.ts", some "api.py", none, true, false⟩) := by
    decide +kernel
  ⟨asks, areLike_of_verbose,
    (session_is_loadThenGenerate _ false _ _).2 _ _ true asks areLike_of_verbose⟩

/-- Behind an operand the first of two separators is passed over and the second one names no file.
With a flag between them the first one is not passed over, and the second one names the output. -/
theorem session_depends_on_flag_before_separators :
    Request.ofTexts ["s.ts", "--", "--"] =
        .ok (.run ⟨some "s.ts", none, none, false, false⟩) ∧
      Request.ofTexts ["s.ts", "-v", "--", "--"] =
        .ok (.run ⟨some "s.ts", some "--", none, true, false⟩) ∧
      (lasting ["s.ts", "--", "--"] false ⟨["w"], .works⟩
        (Run.treeWithSchema "type D={}")).1 = 1 ∧
      (lasting ["s.ts", "-v", "--", "--"] false ⟨["w"], .works⟩
        (Run.treeWithSchema "type D={}")).1 = 0 := by
  refine ⟨?_, ?_, ?_, ?_⟩ <;> decide +kernel

end Tablewright.CommandLine
