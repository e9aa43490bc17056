import CaptureQueue.Program.Job
import CaptureQueue.Proofs.Session.Live

/-! What the parts of a job come to, and how a job may end. -/

set_option autoImplicit false
namespace CaptureQueue.Job

variable {α β : Type} {w w' : Workplace}

/-! ## Values -/

theorem value_bind_of_ok {x : Job α} {f : α → Job β} {a : α} (done : (x w).value = (.ok a, w')) :
    ((x >>= f) w).value = (f a w').value := by
  have both : ((x >>= f) w).value = (ExceptT.bindCont f (x w).value.1 (x w).value.2).value := rfl
  rw [both, done]
  rfl

theorem value_bind_of_error {x : Job α} {f : α → Job β} {h : Halt}
    (failed : (x w).value = (.error h, w')) : ((x >>= f) w).value = (.error h, w') := by
  have both : ((x >>= f) w).value = (ExceptT.bindCont f (x w).value.1 (x w).value.2).value := rfl
  rw [both, failed]
  rfl

theorem value_bind (x : Job α) (f : α → Job β) (w : Workplace) :
    ((x >>= f) w).value =
      match (x w).value with
      | (.ok a, w') => (f a w').value
      | (.error h, w') => (.error h, w') := by
  rcases done : (x w).value with ⟨_ | a, w'⟩
  · exact value_bind_of_error done
  · exact value_bind_of_ok done

theorem value_get_bind (f : Workplace → Job β) : ((get >>= f) w).value = (f w w).value := rfl

@[simp] theorem value_log (r : LogRecord) (w : Workplace) : (log r w).value = (.ok (), w) := rfl

@[simp] theorem value_ofFaulty (found : Except Fault α) (w : Workplace) :
    (ofFaulty found w).value = (found.mapError .broken, w) := by
  cases found <;> rfl

@[simp] theorem value_within (context : String) (job : Job α) (w : Workplace) :
    (within context job w).value = ((job w).value.1.mapError (.within context), (job w).value.2) := rfl

theorem value_within_ofCapture (context : String) (found : Except CaptureError α) (w : Workplace) :
    (within context (ofCapture found) w).value =
      (found.mapError fun e => Halt.within context (.failed { cause := .capture e }), w) := by
  cases found <;> rfl

@[simp] theorem value_onHost (act : Act Host α) (w : Workplace) :
    (onHost act w).value = (.ok (act w.host).value.1, { w with host := (act w.host).value.2 }) := rfl

theorem value_tryCatch (job : Job α) (handler : Halt → Job α) (w : Workplace) :
    (tryCatch job handler w).value =
      match (job w).value with
      | (.ok a, w') => (.ok a, w')
      | (.error h, w') => (handler h w').value := by
  simp only [tryCatch, tryCatchThe, MonadExceptOf.tryCatch, ExceptT.tryCatch, ExceptT.mk]
  rw [Act.value_bind]
  rcases (job w).value with ⟨_ | a, w'⟩ <;> rfl

theorem value_printAll (lines : List String) (w : Workplace) :
    (printAll lines w).value =
      (.ok (), { w with output := lines.foldl (fun said line => said ++ line ++ "\n") w.output }) := by
  induction lines generalizing w with
  | nil => rfl
  | cons line rest ih =>
    have printed : (print line w).value = (.ok (), { w with output := w.output ++ line ++ "\n" }) := rfl
    change ((print line >>= fun _ => printAll rest) w).value = _
    rw [value_bind_of_ok printed, ih]
    rfl

/-! ## Ends -/

/-- The job comes to its end by a fault. -/
def Breaks (job : Job α) (w : Workplace) (fault : Fault) : Prop :=
  (job w).value.1 = .error (.broken fault)

/-- The job comes to its end by a result or by a failure that is told. -/
def Returns (job : Job α) (w : Workplace) : Prop :=
  ∃ result : Except Failure α, (job w).value.1 = result.mapError .failed

theorem Returns.not_breaks {job : Job α} (returns : job.Returns w) (fault : Fault) :
    ¬ job.Breaks w fault := by
  obtain ⟨_ | a, result⟩ := returns
  · intro broke
    cases broke.symm.trans result
  · intro broke
    cases broke.symm.trans result

theorem Returns.ne_endless {job : Job α} (returns : job.Returns w) :
    (job w).value.1 ≠ .error .endless := by
  obtain ⟨_ | a, result⟩ := returns
  · intro endless
    cases endless.symm.trans result
  · intro endless
    cases endless.symm.trans result

end CaptureQueue.Job
