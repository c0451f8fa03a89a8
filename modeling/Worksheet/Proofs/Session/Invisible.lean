import Worksheet.Proofs.Calculator.Trees
import Worksheet.Session

/-!
# Kept trees are exact and cannot be seen

A session is compared with one that keeps no trees: there is only a setting, the cells with the
functions and the policy, and every formula is read afresh. A workbook follows its setting request
by request, keeping the trees of exactly the formulas asked for since it last forgot them, so all
replies are the same. Requests that are only about trees do not change the setting,
so they change no reply to any other request.

Results:
* `perform_spec`, `run_spec`: a workbook follows its setting, and replies as it does.
* `perform_of_fault`: a request whose formula has a syntax error changes nothing.
* `results_filter`: requests that are only about trees change no result.
* `run_keeps_exactly_and_invisibly`: all of this along every session.
-/

namespace Worksheet

open Formula (Expr SyntaxError)
open Session (Request Reply Step)

/-! ## Sessions that keep no trees -/

/-- A workbook but for the trees it keeps. -/
structure Setting where
  sheet : Sheet
  registry : Registry
  missing : MissingCell

namespace Setting

/-- The setting without cells and with the functions of the library. -/
def start (missing : MissingCell) : Setting :=
  ⟨Sheet.empty, Registry.standard, missing⟩

/-- The value of a formula against cells, read afresh. -/
def value (setting : Setting) (cell? : String → Option Cell) (formula : String) :
    Except SyntaxError Value :=
  Context.valueAfresh ⟨cell?, setting.registry, setting.missing⟩ formula

/-- The setting after a request. -/
def after (setting : Setting) : Request → Setting
  | .set address cell => { setting with sheet := setting.sheet.set address cell }
  | .remove address => { setting with sheet := setting.sheet.remove address }
  | .clear => { setting with sheet := Sheet.empty }
  | .setMissing missing => { setting with missing }
  | .register d => { setting with registry := setting.registry.register d }
  | _ => setting

/-- The reply to a request. -/
def reply (setting : Setting) : Request → Reply
  | .set _ _ => .done
  | .get address => .cell (setting.sheet.get? address)
  | .remove address => .cell (setting.sheet.get? address)
  | .list => .cells setting.sheet.toList
  | .clear => .flag Sheet.empty.isEmpty
  | .forget => .done
  | .evaluate formula => .value (setting.value setting.sheet.get? formula)
  | .evaluateWith formula cells => .value (setting.value (Sheet.empty.setAll cells).get? formula)
  | .tree formula => .tree (Expr.ofChars (Calculator.strip formula))
  | .setMissing missing => .missing missing
  | .register d => .count (setting.registry.register d).size
  | .defines name => .flag (setting.registry.get? name).isSome
  | .call name args => .called (setting.registry.call name args)

/-- The setting after requests. -/
def afterAll (setting : Setting) (rs : List Request) : Setting :=
  rs.foldl after setting

/-- The replies to requests, one after the other. -/
def replies (setting : Setting) : List Request → List Reply
  | [] => []
  | r :: rest => setting.reply r :: (setting.after r).replies rest

end Setting

/-- The setting of a workbook. -/
def Workbook.setting (book : Workbook) : Setting :=
  ⟨book.sheet, book.calculator.registry, book.calculator.missing⟩

namespace Session

/-! ## What requests have to do with trees -/

/-- The formulas asked for so far, newest first, after one more request. -/
def Request.noted (formulas : List String) : Request → List String
  | .forget => []
  | .evaluate formula => formula :: formulas
  | .evaluateWith formula _ => formula :: formulas
  | .tree formula => formula :: formulas
  | _ => formulas

/-- The formulas that requests asked for since trees were last forgotten. -/
def asked (rs : List Request) : List String :=
  rs.foldl Request.noted []

/-- Whether a request is about more than the trees kept. -/
def Request.isLasting : Request → Bool
  | .forget => false
  | .tree _ => false
  | _ => true

/-- The result of an evaluation. -/
def Reply.result? : Reply → Option (Except SyntaxError Value)
  | .value result => some result
  | _ => none

/-- The results of the evaluations among steps, in their order. -/
def results (steps : List Step) : List (Except SyntaxError Value) :=
  steps.filterMap fun step => step.reply.result?

/-! ## One request -/

/-! The requests that read formulas, through the parts of the pair that reading yields. -/

theorem evaluateWith_eq (book : Workbook) (cell? : String → Option Cell) (formula : String) :
    book.evaluateWith cell? formula =
      ((book.calculator.evaluate cell? formula).1,
        { book with calculator := (book.calculator.evaluate cell? formula).2 }) := by
  simp only [Workbook.evaluateWith]

theorem perform_evaluate (book : Workbook) (formula : String) :
    perform book (.evaluate formula) =
      (.value (book.evaluateWith book.sheet.get? formula).1,
        (book.evaluateWith book.sheet.get? formula).2) := by
  simp only [perform, Workbook.evaluate]

theorem perform_evaluateWith (book : Workbook) (formula : String)
    (cells : List (String × Cell)) :
    perform book (.evaluateWith formula cells) =
      (.value (book.evaluateWith (Sheet.empty.setAll cells).get? formula).1,
        (book.evaluateWith (Sheet.empty.setAll cells).get? formula).2) := by
  simp only [perform]

theorem perform_tree (book : Workbook) (formula : String) :
    perform book (.tree formula) =
      (.tree (book.calculator.treeOfFormula formula).1,
        { book with calculator := (book.calculator.treeOfFormula formula).2 }) := by
  simp only [perform]

/-- An evaluation against any cells has the value of the setting. -/
theorem evaluateWith_spec {book : Workbook} {formulas : List String}
    (h : book.calculator.Keeps formulas) (cell? : String → Option Cell) (formula : String) :
    (book.evaluateWith cell? formula).1 = book.setting.value cell? formula ∧
      (book.evaluateWith cell? formula).2.setting = book.setting ∧
      (book.evaluateWith cell? formula).2.calculator.Keeps (formula :: formulas) := by
  obtain ⟨hregistry, hmissing⟩ := book.calculator.evaluate_frame cell? formula
  rw [evaluateWith_eq]
  refine ⟨?_, ?_, h.evaluate cell? formula⟩
  · rw [h.fst_evaluate]
    rfl
  · unfold Workbook.setting
    rw [hregistry, hmissing]

/-- Asking for a tree yields the one read afresh. -/
theorem perform_tree_spec {book : Workbook} {formulas : List String}
    (h : book.calculator.Keeps formulas) (formula : String) :
    (perform book (.tree formula)).1 = .tree (Expr.ofChars (Calculator.strip formula)) ∧
      (perform book (.tree formula)).2.setting = book.setting ∧
      (perform book (.tree formula)).2.calculator.Keeps (formula :: formulas) := by
  obtain ⟨hregistry, hmissing⟩ := book.calculator.treeOfFormula_frame formula
  rw [perform_tree]
  refine ⟨?_, ?_, h.treeOfFormula formula⟩
  · rw [h.fst_treeOfFormula]
  · unfold Workbook.setting
    rw [hregistry, hmissing]

/-- **One request.** The reply and the next setting are those of the setting, and exactly the
trees of the formulas asked for stay kept. -/
theorem perform_spec {book : Workbook} {formulas : List String}
    (h : book.calculator.Keeps formulas) (r : Request) :
    (perform book r).1 = book.setting.reply r ∧
      (perform book r).2.setting = book.setting.after r ∧
      (perform book r).2.calculator.Keeps (r.noted formulas) := by
  cases r with
  | set address cell => exact ⟨rfl, rfl, h⟩
  | get address => exact ⟨rfl, rfl, h⟩
  | remove address => exact ⟨rfl, rfl, h⟩
  | list => exact ⟨rfl, rfl, h⟩
  | clear => exact ⟨rfl, rfl, h⟩
  | forget => exact ⟨rfl, rfl, Calculator.Keeps.none rfl⟩
  | evaluate formula =>
    obtain ⟨hvalue, hnext⟩ := evaluateWith_spec h book.sheet.get? formula
    simp only [perform_evaluate]
    refine ⟨?_, hnext⟩
    rw [hvalue]
    rfl
  | evaluateWith formula cells =>
    obtain ⟨hvalue, hnext⟩ := evaluateWith_spec h (Sheet.empty.setAll cells).get? formula
    simp only [perform_evaluateWith]
    refine ⟨?_, hnext⟩
    rw [hvalue]
    rfl
  | tree formula => exact perform_tree_spec h formula
  | setMissing missing => exact ⟨rfl, rfl, h.of_trees_eq rfl⟩
  | register d => exact ⟨rfl, rfl, h.of_trees_eq rfl⟩
  | defines name => exact ⟨rfl, rfl, h⟩
  | call name args => exact ⟨rfl, rfl, h⟩

theorem evaluateWith_of_error {book : Workbook} {cell? : String → Option Cell} {formula : String}
    {fault : SyntaxError} (h : (book.evaluateWith cell? formula).1 = .error fault) :
    (book.evaluateWith cell? formula).2 = book := by
  rw [evaluateWith_eq] at h ⊢
  rw [Calculator.snd_evaluate_of_error h]

/-- A request whose formula has a syntax error changes nothing. -/
theorem perform_of_fault {book : Workbook} {r : Request} {fault : SyntaxError}
    (h : (perform book r).1 = .value (.error fault) ∨ (perform book r).1 = .tree (.error fault)) :
    (perform book r).2 = book := by
  cases r with
  | evaluate formula =>
    simp only [perform_evaluate] at h ⊢
    rcases h with h | h
    · exact evaluateWith_of_error (Reply.value.inj h)
    · cases h
  | evaluateWith formula cells =>
    simp only [perform_evaluateWith] at h ⊢
    rcases h with h | h
    · exact evaluateWith_of_error (Reply.value.inj h)
    · cases h
  | tree formula =>
    simp only [perform_tree] at h ⊢
    rcases h with h | h
    · cases h
    · have hfault : (book.calculator.treeOfFormula formula).1 = .error fault := Reply.tree.inj h
      rw [Calculator.snd_treeOfFormula_of_error hfault]
  | _ => rcases h with h | h <;> cases h

/-! ## All requests -/

/-- **All requests.** A session has the replies of its setting, and keeps exactly the trees of
the formulas asked for. -/
theorem run_spec {book : Workbook} {formulas : List String}
    (h : book.calculator.Keeps formulas) (rs : List Request) :
    (run book rs).1.map Step.reply = book.setting.replies rs ∧
      (run book rs).2.setting = book.setting.afterAll rs ∧
      (run book rs).2.calculator.Keeps (rs.foldl Request.noted formulas) := by
  induction rs generalizing book formulas with
  | nil => exact ⟨rfl, rfl, h⟩
  | cons r rest ih =>
    obtain ⟨hreply, hsetting, hkeeps⟩ := perform_spec h r
    obtain ⟨hreplies, hlast, hall⟩ := ih hkeeps
    refine ⟨?_, ?_, hall⟩
    · show (perform book r).1 :: (run (perform book r).2 rest).1.map Step.reply = _
      rw [hreply, hreplies, hsetting]
      rfl
    · show (run (perform book r).2 rest).2.setting = _
      rw [hlast, hsetting]
      rfl

/-! ## Requests that are only about trees -/

theorem after_of_not_isLasting {setting : Setting} {r : Request} (h : r.isLasting = false) :
    setting.after r = setting ∧ (setting.reply r).result? = none := by
  cases r <;> first | exact ⟨rfl, rfl⟩ | cases h

/-- Requests that are only about trees change no result. -/
theorem results_filter (setting : Setting) (rs : List Request) :
    (setting.replies rs).filterMap Reply.result? =
      (setting.replies (rs.filter Request.isLasting)).filterMap Reply.result? := by
  induction rs generalizing setting with
  | nil => rfl
  | cons r rest ih =>
    by_cases hlasting : r.isLasting = true
    · rw [List.filter_cons_of_pos hlasting]
      simp only [Setting.replies, List.filterMap_cons, ih]
    · rw [List.filter_cons_of_neg hlasting]
      obtain ⟨hafter, hresult⟩ :=
        @after_of_not_isLasting setting r (Bool.eq_false_iff.mpr hlasting)
      simp only [Setting.replies, List.filterMap_cons, hresult, hafter, ih]

theorem results_run {book : Workbook} {formulas : List String}
    (h : book.calculator.Keeps formulas) (rs : List Request) :
    results (run book rs).1 = (book.setting.replies rs).filterMap Reply.result? := by
  rw [← (run_spec h rs).1, List.filterMap_map]
  rfl

/-! ## Sessions from the start -/

theorem keeps_start (missing : MissingCell) : (Workbook.start missing).calculator.Keeps [] :=
  Calculator.Keeps.none rfl

/-- **Kept trees are exact and invisible.** After any requests to a workbook that has just been
started: its trees are those of the stripped texts of the formulas asked for since it last forgot
them, each as it is read afresh, and it counts them right; an evaluation yields what reading the
formula afresh yields against the cells given and the functions and policy of that moment; a
request whose formula has a syntax error changes nothing; and requests that are only about trees
could be put in or left out anywhere without a change to the result of any evaluation. -/
theorem run_keeps_exactly_and_invisibly (missing : MissingCell) (rs : List Request) :
    let book := (run (Workbook.start missing) rs).2
    let now := (Setting.start missing).afterAll rs
    ((∀ text e, book.calculator.trees[text]? = some e ↔
        (∃ formula ∈ asked rs, Calculator.key formula = text) ∧ Expr.ofChars text.toList = .ok e) ∧
      book.calculator.kept = (Calculator.readable (asked rs)).length) ∧
    ((∀ formula,
        (perform book (.evaluate formula)).1 = .value (now.value now.sheet.get? formula)) ∧
      ∀ formula cells, (perform book (.evaluateWith formula cells)).1 =
        .value (now.value (Sheet.empty.setAll cells).get? formula)) ∧
    (∀ r fault,
      (perform book r).1 = .value (.error fault) ∨ (perform book r).1 = .tree (.error fault) →
        (perform book r).2 = book) ∧
    ∀ others : List Request, others.filter Request.isLasting = rs.filter Request.isLasting →
      results (run (Workbook.start missing) others).1 =
        results (run (Workbook.start missing) rs).1 := by
  intro book now
  obtain ⟨_, hsetting, hkeeps⟩ := run_spec (keeps_start missing) rs
  have hnow : book.setting = now := hsetting
  refine ⟨⟨fun text e => ?_, hkeeps.kept_eq⟩, ⟨fun formula => ?_, fun formula cells => ?_⟩,
    fun r fault => perform_of_fault, fun others hsame => ?_⟩
  · rw [hkeeps text e, List.mem_map]
    rfl
  · rw [(perform_spec hkeeps _).1, hnow]
    rfl
  · rw [(perform_spec hkeeps _).1, hnow]
    rfl
  · rw [results_run (keeps_start missing), results_run (keeps_start missing), results_filter,
      hsame, ← results_filter]

end Session

end Worksheet
