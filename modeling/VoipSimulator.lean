import VoipSimulator.Python.Dict
import VoipSimulator.Python.Queue
import VoipSimulator.Python.Value
import VoipSimulator.Python.Json
import VoipSimulator.Python.JsonLoads
import VoipSimulator.Python.JsonRoundTrip
import VoipSimulator.Console.Fanout
import VoipSimulator.Console.PacketIngest
import VoipSimulator.Console.PacketChannel
import VoipSimulator.Console.Command
import VoipSimulator.Console.ResponseSystem
import VoipSimulator.Console.Guarantees
import VoipSimulator.Console.EventStream
import VoipSimulator.Python.Struct
import VoipSimulator.Python.Utf8
import VoipSimulator.Console.KafkaWire
import VoipSimulator.Uac.RtpPcap
import VoipSimulator.Uac.Ulaw
import VoipSimulator.Console.Deployment
import VoipSimulator.Uac.Script
import VoipSimulator.Console.Supervisor
