import Gnetcli.Tunnel.SshTunnel

/-!
# Forwarding through a closed tunnel

`StartForward` guards the direct path with `if !m.isOpen { return nil,
errors.New("connection is closed") }`, but the control-master path runs first
and has no such guard. `Close` leaves `stdioForward` set, so a tunnel built with
a control file still dials `DialControlStdioForward` after `Close`
(`startForward_after_close_dials_control`).

Without a control file `stdioForward` stays `nil` in every reachable state
(`run_stdioForward_none`), and then:

- **`run_direct_dial_isOpen`**: every `StartForward` that reaches
  `svrConn.Dial` is made while `isOpen` holds, in every run;
- **`run_direct_closed_refuses`**: from a closed tunnel, every `StartForward`
  before the next successful `CreateConnect` returns "connection is closed"
  and dials nothing.
-/

namespace Gnetcli.Tunnel

/-- The remote dial a reply reports, if any. -/
def Reply.dialed : Reply → Option DialSite
  | .forwarded _ site => site
  | _ => none

/-- The reply of a successful `CreateConnect`. -/
def Reply.isConnectSuccess : Reply → Bool
  | .connected (.ok ()) => true
  | _ => false

/-! ## The failing run in control-master mode -/

/-- A tunnel with a control file, whose collaborators all succeed. -/
def controlTunnel : SSHTunnel := newSSHTunnel "jump" [.withControlFile "/tmp/ctl"]

def connectOk : ConnectOutcome :=
  { getConfig := .ok (), dialControlMasterConf := .ok ⟨1⟩, dialCtx := .ok ⟨2⟩ }

def forwardOk : ForwardOutcome :=
  { splitHostPort := .ok ("10.0.0.1", "22"), parseInt := .ok 22,
    dialControlStdioForward := .ok ⟨3⟩, socketpair := .ok (⟨4⟩, ⟨5⟩), dial := .ok ⟨6⟩ }

/-- Connect, `Close`, then `StartForward("tcp", "10.0.0.1:22")`: the third call
is made on a closed tunnel and still reaches `DialControlStdioForward`, and
hands out a forwarded connection. -/
theorem startForward_after_close_dials_control :
    ∃ s, (run controlTunnel
        [.createConnect connectOk, .close, .startForward "tcp" "10.0.0.1:22" forwardOk])[2]? =
      some (s, .forwarded (.ok ⟨3⟩) (some (.controlStdioForward "10.0.0.1" 22))) ∧
      s.isOpen = false :=
  ⟨_, rfl, rfl⟩

/-! ## Direct mode -/

section Direct

variable {m : SSHTunnel} {op : TunnelOp}

@[simp] theorem step_controlFile : (step m op).1.controlFile = m.controlFile := by
  cases op with
  | createConnect o =>
    simp only [step, createConnect]
    split <;> (try split) <;> (try split) <;> rfl
  | startForward => rfl
  | close => simp only [step, close]; split <;> rfl
  | isConnected => rfl

theorem step_stdioForward_none (hc : m.controlFile = "") (hs : m.stdioForward = none) :
    (step m op).1.stdioForward = none := by
  cases op with
  | createConnect o =>
    simp only [step, createConnect, hc, String.length_empty, ne_eq, not_true_eq_false, if_false]
    split <;> (try split) <;> assumption
  | startForward => exact hs
  | close => simp only [step, close]; split <;> exact hs
  | isConnected => exact hs

/-- Without `stdioForward`, a dial is reached only past the `isOpen` guard. -/
theorem step_dialed_isOpen (hs : m.stdioForward = none) (hd : ((step m op).2.dialed).isSome) :
    m.isOpen = true := by
  cases op with
  | startForward network remoteAddr o =>
    cases ho : m.isOpen
    · simp [step, startForward, hs, ho, Reply.dialed] at hd
    · rfl
  | createConnect o => simp [step, Reply.dialed] at hd
  | close => simp [step, Reply.dialed] at hd
  | isConnected => simp [step, Reply.dialed] at hd

/-- From a closed tunnel without `stdioForward`, `StartForward` refuses. -/
theorem startForward_closed (hs : m.stdioForward = none) (ho : m.isOpen = false)
    (network remoteAddr : String) (o : ForwardOutcome) :
    startForward m network remoteAddr o = (.error "connection is closed", none) := by
  simp [startForward, hs, ho]

/-- A closed tunnel stays closed through every call but a successful
`CreateConnect`. -/
theorem step_stays_closed (ho : m.isOpen = false) (hr : (step m op).2.isConnectSuccess = false) :
    (step m op).1.isOpen = false := by
  cases op with
  | createConnect o =>
    simp only [step, createConnect] at hr ⊢
    split at hr <;> (try split at hr) <;> (try split at hr) <;>
      simp_all [Reply.isConnectSuccess]
  | close => simp [step, close, ho]
  | _ => exact ho

theorem run_stdioForward_none (ops : List TunnelOp) :
    ∀ m : SSHTunnel, m.controlFile = "" → m.stdioForward = none →
      ∀ e ∈ run m ops, e.1.controlFile = "" ∧ e.1.stdioForward = none := by
  induction ops with
  | nil => simp [run]
  | cons op ops ih =>
    intro m hc hs e he
    simp only [run, List.mem_cons] at he
    rcases he with rfl | he
    · exact ⟨hc, hs⟩
    · exact ih _ (by simpa using hc) (step_stdioForward_none hc hs) e he

@[simp] theorem newSSHTunnel_stdioForward (host : String) (opts : List SSHTunnelOption) :
    (newSSHTunnel host opts).stdioForward = none := by
  suffices ∀ m : SSHTunnel, m.stdioForward = none →
      (opts.foldl SSHTunnelOption.apply m).stdioForward = none from this _ rfl
  induction opts with
  | nil => exact fun _ h => h
  | cons o opts ih => intro m h; exact ih _ (by cases o <;> exact h)

/-- Each entry of a run is a state with the reply of one of the run's calls. -/
theorem mem_run {ops : List TunnelOp} :
    ∀ {m : SSHTunnel} {e : SSHTunnel × Reply}, e ∈ run m ops → ∃ op ∈ ops, e.2 = (step e.1 op).2 := by
  induction ops with
  | nil => simp [run]
  | cons op ops ih =>
    intro m e he
    simp only [run, List.mem_cons] at he
    rcases he with rfl | he
    · exact ⟨op, List.mem_cons_self _ _, rfl⟩
    · obtain ⟨op', hop', h⟩ := ih he
      exact ⟨op', List.mem_cons_of_mem _ hop', h⟩

/-- **Direct mode**: in every run of a tunnel built without a control file,
every `StartForward` that reaches `svrConn.Dial` is made while `isOpen`. -/
theorem run_direct_dial_isOpen (host : String) (opts : List SSHTunnelOption)
    (hc : (newSSHTunnel host opts).controlFile = "") (ops : List TunnelOp) :
    ∀ e ∈ run (newSSHTunnel host opts) ops, e.2.dialed.isSome → e.1.isOpen = true := by
  intro e he hd
  obtain ⟨op, -, hop⟩ := mem_run he
  have hs := (run_stdioForward_none ops _ hc (newSSHTunnel_stdioForward host opts) e he).2
  exact @step_dialed_isOpen e.1 op hs (hop ▸ hd)

/-- Connect without a control file, then forward: the dial happens on an open
tunnel. -/
theorem direct_forward_dials_open :
    ((run (newSSHTunnel "jump" []) [.createConnect connectOk,
        .startForward "tcp" "10.0.0.1:22" forwardOk]).get ⟨1, by decide⟩).1.isOpen = true :=
  run_direct_dial_isOpen "jump" [] rfl _ _ (List.get_mem _ _ _) rfl

/-- **After `Close`**: from a closed tunnel without a control file, until the
next successful `CreateConnect`, the tunnel stays closed and every
`StartForward` returns "connection is closed" without dialing. -/
theorem run_direct_closed_refuses (ops : List TunnelOp) :
    ∀ m : SSHTunnel, m.controlFile = "" → m.stdioForward = none → m.isOpen = false →
      ∀ e ∈ (run m ops).takeWhile (fun e => !e.2.isConnectSuccess),
        e.1.isOpen = false ∧
        ∀ r site, e.2 = .forwarded r site → r = .error "connection is closed" ∧ site = none := by
  induction ops with
  | nil => simp [run]
  | cons op ops ih =>
    intro m hc hs ho e he
    simp only [run, List.takeWhile_cons] at he
    split at he
    · rename_i hnc
      simp only [List.mem_cons] at he
      rcases he with rfl | he
      · refine ⟨ho, fun r site hr => ?_⟩
        cases op with
        | startForward network remoteAddr o =>
          simp only [step, startForward_closed hs ho, Reply.forwarded.injEq] at hr
          exact ⟨hr.1.symm, hr.2.symm⟩
        | _ => simp [step] at hr
      · have hnc : (step m op).2.isConnectSuccess = false := by simpa using hnc
        exact ih _ (by simpa using hc) (step_stdioForward_none hc hs) (step_stays_closed ho hnc) e he
    · simp at he

/-- A direct tunnel after a successful `CreateConnect` and `Close`. -/
def closedTunnel : SSHTunnel := (step (step (newSSHTunnel "jump" []) (.createConnect connectOk)).1 .close).1

/-- Connect a direct tunnel and close it: from there two forwards around an
`IsConnected` are refused with "connection is closed", and nothing is dialed. -/
theorem closed_direct_forward_refused :
    (step (newSSHTunnel "jump" []) (.createConnect connectOk)).2 = .connected (.ok ()) ∧
      closedTunnel.controlFile = "" ∧ closedTunnel.stdioForward = none ∧ closedTunnel.isOpen = false ∧
      (run closedTunnel [.startForward "tcp" "10.0.0.1:22" forwardOk, .isConnected,
          .startForward "tcp" "10.0.0.2:22" forwardOk]).map Prod.snd =
        [.forwarded (.error "connection is closed") none, .isConnected false,
          .forwarded (.error "connection is closed") none] ∧
      ∀ e ∈ (run closedTunnel [.startForward "tcp" "10.0.0.1:22" forwardOk, .isConnected,
          .startForward "tcp" "10.0.0.2:22" forwardOk]).takeWhile (fun e => !e.2.isConnectSuccess),
        e.1.isOpen = false ∧
        ∀ r site, e.2 = .forwarded r site → r = .error "connection is closed" ∧ site = none :=
  ⟨rfl, rfl, rfl, rfl, rfl, run_direct_closed_refuses _ closedTunnel rfl rfl rfl⟩

end Direct

end Gnetcli.Tunnel
