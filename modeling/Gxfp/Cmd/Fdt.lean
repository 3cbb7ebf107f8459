/-
The finger-detection commands of `src/cmd/fdt_cmd.c`.

`struct gxfp_cmd_fdt_state` keeps three tables of base values for the sensor and the
settings they are computed with.  Each command sends one of the tables: DOWN and UP
their own, MODE the manual one, which it first makes a copy of the down table.
-/
import Gxfp.Cmd.Xfer

namespace Gxfp

open Bytes

def cmdFdtDown : UInt8 := 0x32
def cmdFdtUp : UInt8 := 0x34
def cmdFdtMode : UInt8 := 0x36
def cmdFdtStatus : UInt8 := 0xDA

def fdtBaseTableLen : Nat := 24
def fdtWireTrailerLen : Nat := 8

/-- `struct gxfp_cmd_fdt_state`; the flags, which are only ever 0 or 1, are `Bool`. -/
structure FdtCmdState where
  downTable : List UInt8
  upTable : List UInt8
  manualTable : List UInt8
  baseTableInited : Bool
  upSecondFlag : Bool
  upNeedTwice : Bool
  upDiffUse : Bool
  upDacOffset : Int16
  upRound : Bool
  deriving DecidableEq, Repr

/-- `gxfp_cmd_fdt_state_init` -/
def cmdFdtStateInit : FdtCmdState where
  downTable := zeros fdtBaseTableLen
  upTable := zeros fdtBaseTableLen
  manualTable := zeros fdtBaseTableLen
  baseTableInited := true
  upSecondFlag := false
  upNeedTwice := false
  upDiffUse := false
  upDacOffset := 0
  upRound := false

/-- `gxfp_cmd_fdt_state_set_runtime` -/
def cmdFdtStateSetRuntime (state : FdtCmdState) (secondFlag needFdtUpTwice diffUse : Bool)
    (dacOffset : Int16) : FdtCmdState :=
  { state with
    upSecondFlag := secondFlag
    upNeedTwice := needFdtUpTwice
    upDiffUse := diffUse
    upDacOffset := dacOffset
    upRound := false }

/-- A command's two bytes, a table, and the zeros behind it. -/
def fdtPayload (magic0 magic1 : UInt8) (table : List UInt8) : List UInt8 :=
  [magic0, magic1] ++ table ++ zeros fdtWireTrailerLen

/-- `fdt_down_payload_build` -/
def fdtDownPayload (state : FdtCmdState) : List UInt8 := fdtPayload 0x08 0x01 state.downTable

/-- `fdt_mode_payload_build` -/
def fdtModePayload (state : FdtCmdState) : List UInt8 := fdtPayload 0x09 0x01 state.manualTable

/-- `fdt_up_payload_build` -/
def fdtUpPayload (state : FdtCmdState) : List UInt8 := fdtPayload 0x0A 0x01 state.upTable

section

variable {σ : Type} (sys : Sys σ) (dev : Dev)

/-- The state `gxfp_cmd_fdt_set_mode` leaves, whether or not its command goes out. -/
def FdtCmdState.armed (state : FdtCmdState) : FdtCmdState :=
  { state with manualTable := state.downTable }

/-- `gxfp_cmd_fdt_set_mode` -/
def cmdFdtSetMode (state : FdtCmdState) (s : σ) : Except Errno Unit × FdtCmdState × Dev × σ :=
  let (r, dev, s) := goodixSendAsync sys dev cmdFdtMode (fdtModePayload state.armed) s
  (r, state.armed, dev, s)

/-- `gxfp_cmd_fdt_send_down` -/
def cmdFdtSendDown (state : FdtCmdState) (s : σ) : Except Errno Unit × Dev × σ :=
  goodixSendAsync sys dev cmdFdtDown (fdtDownPayload state) s

/-- `gxfp_cmd_fdt_send_up` -/
def cmdFdtSendUp (state : FdtCmdState) (s : σ) : Except Errno Unit × Dev × σ :=
  goodixSendAsync sys dev cmdFdtUp (fdtUpPayload state) s

end

end Gxfp
