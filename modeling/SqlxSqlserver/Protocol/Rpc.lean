import SqlxSqlserver.Driver.Arguments

/-! The request messages: ALL_HEADERS with the transaction descriptor in front of a SQL batch
or of a call of one of the built-in procedures. -/

namespace SqlxSqlserver.Protocol
open Foundation Driver

def procedureIdExecuteSql : Nat := 10
def procedureIdPrepare : Nat := 11
def procedureIdUnprepare : Nat := 15

inductive RpcPacketError where
  | argument (error : BoxDynError)
  | frame (error : PacketFrameError)
  deriving DecidableEq

def RpcPacketError.message : RpcPacketError → String
  | .argument error => "failed to encode SQL Server RPC argument: " ++ error.display
  | .frame error => error.message

def allHeaders (transactionDescriptor : UInt64) : Bytes :=
  leBytes 4 22 ++ leBytes 4 18 ++ leBytes 2 2 ++ leBytes 8 transactionDescriptor.toNat ++ leBytes 4 1

def writeAllHeaders {ε : Type} (transactionDescriptor : UInt64) : Put ε Unit :=
  .emit (allHeaders transactionDescriptor)

def buildSqlBatchPacket (sql : String) (packetSize : Nat) (transactionDescriptor : UInt64) :
    Outcome PacketFrameError Bytes :=
  let payload := allHeaders transactionDescriptor ++ unitBytes (encodeUtf16 sql)
  encodeMessage .sqlBatch payload packetSize

def writeRpcHeader (procedureId : Nat) (transactionDescriptor : UInt64) : Put BoxDynError Unit := do
  writeAllHeaders transactionDescriptor
  .emit (leBytes 2 0xffff)
  .emit (leBytes 2 procedureId)
  .emit (leBytes 2 0)

def executeSqlPayload (sql : String) (arguments : MssqlArguments)
    (transactionDescriptor : UInt64) : Put BoxDynError Unit := do
  writeRpcHeader procedureIdExecuteSql transactionDescriptor
  writeNvarcharParameter "" sql
  if !arguments.isEmpty then
    writeNvarcharParameter "" arguments.declarations
    .emit arguments.data

/-- The framing that ends every builder: the payload was written, or the first error stops. -/
def frameRpc (payload : Put BoxDynError Unit) (packetSize : Nat) : Outcome RpcPacketError Bytes :=
  match payload.result with
  | .error error => .err (.argument error)
  | .ok () => (encodeMessage .rpc payload.written packetSize).mapErr .frame

def buildExecuteSqlPacket (sql : String) (arguments : MssqlArguments) (packetSize : Nat)
    (transactionDescriptor : UInt64) : Outcome RpcPacketError Bytes :=
  frameRpc (executeSqlPayload sql arguments transactionDescriptor) packetSize

def parameterDeclarationsFrom :
    Nat → String → List MssqlTypeInfo → Except BoxDynError String
  | _, declarations, [] => .ok declarations
  | idx, declarations, typeInfo :: rest => do
    let declarations := if declarations.isEmpty then declarations else declarations ++ ","
    let declarations := declarations ++ "@p" ++ toString (idx + 1) ++ " "
    let declarations := declarations ++ (← typeDeclaration typeInfo)
    parameterDeclarationsFrom (idx + 1) declarations rest

def parameterDeclarations (parameters : List MssqlTypeInfo) : Except BoxDynError String :=
  parameterDeclarationsFrom 0 "" parameters

def writeParameterDeclarations (parameters : List MssqlTypeInfo) : Put BoxDynError Unit :=
  if parameters.isEmpty then
    writeNullNvarcharParameter ""
  else do
    let declarations ← .lift (parameterDeclarations parameters)
    writeNvarcharParameter "" declarations

def preparePayload (sql : String) (parameters : List MssqlTypeInfo)
    (transactionDescriptor : UInt64) : Put BoxDynError Unit := do
  writeRpcHeader procedureIdPrepare transactionDescriptor
  writeOutputI32Parameter "" 0
  writeParameterDeclarations parameters
  writeNvarcharParameter "" sql
  writeParameter "" .int (intBytes 4 1) false

def buildPreparePacket (sql : String) (parameters : List MssqlTypeInfo) (packetSize : Nat)
    (transactionDescriptor : UInt64) : Outcome RpcPacketError Bytes :=
  frameRpc (preparePayload sql parameters transactionDescriptor) packetSize

def unpreparePayload (statementId : Int32) (transactionDescriptor : UInt64) :
    Put BoxDynError Unit := do
  writeRpcHeader procedureIdUnprepare transactionDescriptor
  writeParameter "" .int (intBytes 4 statementId.toInt) false

def buildUnpreparePacket (statementId : Int32) (packetSize : Nat)
    (transactionDescriptor : UInt64) : Outcome RpcPacketError Bytes :=
  frameRpc (unpreparePayload statementId transactionDescriptor) packetSize

@[simp] theorem allHeaders_length (transactionDescriptor : UInt64) :
    (allHeaders transactionDescriptor).length = 22 := by
  simp [allHeaders]

end SqlxSqlserver.Protocol
