/-!
# The archive of the build wrapper

The class that the start scripts run, packed as an archive. Its bytes are kept in hexadecimal.
-/

namespace TriggerPlan.Resources

/-- The bytes of the wrapper archive, two digits for each. -/
def wrapperJarHex : List String :=
  ["504b0304140008080800efbfbd53535d000000000000000000000000090004004d4554412d494e462fefbfbdefbf",
    "bd00000300504b0708000000000200000000000000504b0304140008080800efbfbd53535d000000000000000000",
    "000000140000004d4554412d494e462f4d414e49464553542e4d462defbfbd310befbfbd3010efbfbdefbfbd3d70",
    "efbfbd21efbfbd0e39efbfbd41efbfbdefbfbd56280eefbfbd44e7939eefbfbd20efbfbdefbfbd4b40efbfbdefbf",
    "bd56efbfbdefbfbdefbfbd0f7c03efbfbd3cefbfbdefbfbd70632befbfbd68efbfbd2d36efbfbd2e734e3cefbfbd",
    "56efbfbdefbfbd18efbfbd521347efbfbd1befbfbdefbfbdefbfbdefbfbd2867367003efbfbdefbfbd2e5129efbf",
    "bd2f36efbfbdefbfbdefbfbdefbfbdefbfbd3a6eefbfbdefbfbdefbfbd165c674cefbfbdefbfbd707aefbfbd4747",
    "6cefbfbd3defbfbddd991f42efbfbd0707efbfbd03504b0708efbfbdefbfbd1f127a000000efbfbd000000504b03",
    "040a0000080000efbfbd53535d000000000000000000000000040000006f72672f504b03040a0000080000efbfbd",
    "53535d0000000000000000000000000b0000006f72672f677261646c652f504b03040a0000080000efbfbd53535d",
    "000000000000000000000000130000006f72672f677261646c652f777261707065722f504b0304140008080800ef",
    "bfbd53535d0000000000000000000000002a0000006f72672f677261646c652f777261707065722f477261646c65",
    "577261707065724d61696e2e636c617373efbfbd59096053d7953dd796efbfbd65efbfbd3146efbfbd014100256c",
    "efbfbd0eefbfbd00efbfbd03efbfbdefbfbdefbfbdefbfbd5b30efbfbdd8a425efbfbdefbfbdefbfbd05efbfbdef",
    "bfbd485f182769425aefbfbdefbfbd7d23efbfbd101aefbfbdefbfbd7d0c6d64272eefbfbd252533efbfbdefbfbd",
    "2cefbfbdefbfbd33efbfbdd997efbfbdda99efbfbd4c3ad3940961efbfbdefbfbd5a2c1b4169efbfbdefbfbdefbf",
    "bd7fefbfbdefbfbdefbfbdefbfbdefbfbd73efbfbd573eefbfbdefbfbd5300efbfbdc9881359efbfbdefbfbd60ef",
    "bfbd6147efbfbd207fefbfbd6fefbfbdefbfbd32efbfbd0b76573675efbfbd343a4d41efbfbd75efbfbdefbfbdef",
    "bfbd5c2defbfbdefbfbd166fefbfbdefbfbd10e896903f54efbfbdefbfbd1f30343805efbfbd43efbfbdefbfbdef",
    "bfbdeeb0af2b6054efbfbdefbfbd7d7d7d46efbfbd72efbfbdefbfbdefbfbd1a7f6aefbfbdefbfbdefbfbd4ee898",
    "ac214fefbfbd14efbfbd0befbfbdefbfbd6defbfbd26efbfbdefbfbd440405dd86efbfbd1c0eefbfbdefbfbdefbf",
    "bd1f0aefbfbd0defbfbd72efbfbdefbfbd2a6f71efbfbd251a313aefbfbd61efbfbd39503951efbfbdefbfbd0917",
    "0a3414efbfbd28efbfbd34efbfbdefbfbd4befbfbd0b2673efbfbd35efbfbd2eefbfbd25140d771aefbfbd2b2eef",
    "bfbd626cefbfbdefbfbd67efbfbdefbfbd61efbfbdefbfbd59efbfbd4230efbfbd62efbfbdefbfbd49545b1fefbf",
    "bdefbfbdefbfbdefbfbdefbfbdcaa4d2a061566eefbfbd544f45733057efbfbd47c795efbfbd2aefbfbdefbfbdc4",
    "a4efbfbd6eefbfbdefbfbd6cefbfbdefbfbd60591defbfbd69efbfbdefbfbdc2b34030efbfbd3b7eefbfbd78efbf",
    "bdefbfbd5defbfbdc38befbfbdefbfbdefbfbdefbfbd7d612368efbfbdefbfbdefbfbdefbfbd4aefbfbdefbfbdda",
    "8152efbfbd3b1eefbfbdefbfbd44efbfbd2aefbfbdefbfbd215e4cefbfbd1151efbfbdefbfbdefbfbd4e15efbfbd",
    "79efbfbdefbfbd4befbfbdc7a2efbfbd62efbfbdefbfbdefbfbd6e6befbfbd5c2cd6b1044b05efbfbd40efbfbdef",
    "bfbd2558386159c280efbfbdefbfbd0fefbfbd382436efbfbd21efbfbd08efbfbd2e7fefbfbdefbfbd3aefbfbdef",
    "bfbd5f5befbfbd01efbfbd6eefbfbdefbfbd15582970efbfbdefbfbddba3efbfbdefbfbd41efbfbdefbfbd7933ef",
    "bfbdefbfbd60d185430e54efbfbd0fefbfbd1befbfbdefbfbd22efbfbd03efbfbd7174c3a6efbfbdefbfbdefbfbd",
    "efbfbd6f6959efbfbd69efbfbdc6a6efbfbd754eefbfbdefbfbdefbfbd1a6eefbfbd51efbfbd5a4161efbfbd5def",
    "bfbd414e3c0f08567a2fefbfbdefbfbd320d5b3befbfbdefbfbd66efbfbdefbfbdefbfbdefbfbd7aefbfbd31efbf",
    "bd416a36efbfbdefbfbdefbfbd51471d6eefbfbdefbfbd3b68efbfbdefbfbdefbfbdefbfbdefbfbd5e225a13efbf",
    "bd40efbfbdefbfbd77efbfbdefbfbd5aefbfbd50d888efbfbdefbfbd316d4419efbfbd44336ed6b049470b36efbf",
    "bdefbfbdefbfbdefbfbd4eefbfbdefbfbd796befbfbd05efbfbdefbfbd3d4d3b68efbfbdefbfbdefbfbdefbfbd4e",
    "2ddaaaefbfbd15efbfbd087223d18e4842efbfbdefbfbdefbfbdefbfbdefbfbdefbfbdefbfbd7515efbfbd55efbf",
    "bdefbfbd55c797efbfbd6506efbfbd0876455aefbfbd66efbfbd5aefbfbdefbfbd28efbfbd4aefbfbd361d3e74ef",
    "bfbdefbfbd0246efbfbd5befbfbdefbfbdefbfbdefbfbdddbbefbfbdefbfbdefbfbdefbfbd346f5defbfbd2defbf",
    "bd3fefbfbd75efbfbdefbfbdcf9d7b7cefbfbdefbfbd31efbfbdefbfbdefbfbdefbfbd69efbfbd25efbfbd3e71ef",
    "bfbd36efbfbd0f7419612776225b7d0575efbfbdefbfbd47efbfbd540cefbfbdefbfbd6fefbfbd65694fefbfbdef",
    "bfbd47efbfbd3c4a4568efbfbdefbfbd65efbfbd62371d62efbfbdefbfbd2e2fefbfbd663cefbfbdefbfbd3d3a06",
    "7007efbfbdefbfbd47efbfbdefbfbd4f7fefbfbd3b70efbfbd20efbfbd6cefbfbd1f0aefbfbdefbfbdefbfbdefbf",
    "bd354251d381efbfbdefbfbd364b16efbfbd3f27efbfbdefbfbd5e0d5fefbfbdefbfbd35efbfbd23efbfbdefbfbd",
    "29efbfbd0befbfbd46efbfbd41531c7defbfbd70efbfbdefbfbdefbfbd456251efbfbdefbfbd79efbfbdefbfbd07",
    "efbfbd20efbfbdefbfbd42efbfbdefbfbd3811efbfbdefbfbdefbfbd18efbfbd2befbfbdefbfbdefbfbdefbfbd54",
    "efbfbdefbfbd042d3defbfbdefbfbdefbfbd2c6fefbfbdefbfbdefbfbd647c4465efbfbd5f6defbfbdefbfbdefbf",
    "bd040f17efbfbdefbfbd5551efbfbdefbfbd33efbfbdd28cefbfbd743cefbfbd10efbfbd4f36efbfbd052275efbf",
    "bd41627b0dd1ae3cefbfbdefbfbdefbfbdefbfbd2cefbfbd751901efbfbd64217befbfbd2528efbfbdefbfbdefbf",
    "bd69dd9e4eefbfbd4fefbfbdefbfbdefbfbd20d1b4efbfbdefbfbdefbfbdefbfbd15efbfbdefbfbd7a7aefbfbdef",
    "bfbd5eefbfbdefbfbdefbfbdefbfbdefbfbd110a7b54efbfbd5e50113f3c21efbfbdefbfbdefbfbd79efbfbd403b",
    "71004714efbfbd7eefbfbd22efbfbdefbfbdefbfbdefbfbdefbfbdefbfbdefbfbdefbfbd0aefbfbd150d32490473",
    "33efbfbd72efbfbd0b5639784defbfbd3175efbfbdc99d61efbfbd671aefbfbd46efbfbdefbfbd74efbfbd0d4678",
    "4befbfbdefbfbd11303c66efbfbd13efbfbdefbfbdefbfbd4defbfbdefbfbdefbfbd36efbfbd1138efbfbd6163ef",
    "bfbdefbfbdefbfbdefbfbdefbfbd6304efbfbd5b022d14efbfbd08efbfbd7aefbfbdefbfbdefbfbd7844c389efbf",
    "bd24311031efbfbd5e15efbfbd6fefbfbd784fefbfbd78efbfbd19efbfbd0fefbfbd1befbfbd3516efbfbd0c737d",
    "efbfbd3f48efbfbd44efbfbdefbfbdefbfbd3a3eefbfbd2831efbfbd190aefbfbdefbfbdd2a4efbfbd59efbfbd6e",
    "59efbfbdefbfbd0befbfbd30efbfbd46efbfbd355921efbfbd2421efbfbdefbfbd67744eefbfbd2cefbfbdefbfbd",
    "efbfbd11efbfbdefbfbd6148efbfbdefbfbdefbfbd1befbfbdefbfbdefbfbd21efbfbd4f6f440c73efbfbd1eefbf",
    "bd6d537940efbfbd557b71efbfbdefbfbdefbfbdefbfbd31efbfbdefbfbdefbfbd261cefbfbd0defbfbd13efbfbd",
    "4eefbfbd51efbfbdefbfbd631defbfbdefbfbd6cefbfbd42daafe988840251efbfbd22efbfbd49efbfbd04efbfbd",
    "efbfbdefbfbd0f74efbfbd21efbfbdefbfbd3936efbfbd432defbfbd69efbfbdefbfbdefbfbd09efbfbd4d42efbf",
    "bdefbfbdefbfbd71efbfbdefbfbdefbfbd26584e3aefbfbd4824efbfbd243fefbfbdefbfbd14307e4cefbfbdefbf",
    "bd6befbfbd525cefbfbdefbfbdefbfbd4f0552efbfbdefbfbd3befbfbd64efbfbd5cefbfbd5fefbfbd2fc9b65def",
    "bfbdefbfbdefbfbd246fefbfbdefbfbdefbfbd4befbfbdefbfbdefbfbdddaaefbfbdefbfbdefbfbdefbfbdefbfbd",
    "37efbfbd5befbfbdefbfbd077b0cefbfbd35754d693defbfbdefbfbd16efbfbdefbfbdefbfbd7fefbfbd4f09cd88",
    "efbfbd0b5befbfbdefbfbd610125efbfbd09efbfbdefbfbdefbfbd5f74efbfbdefbfbd62efbfbd17482814efbfbd",
    "efbfbdefbfbdefbfbd5058efbfbdefbfbd673aefbfbd1defbfbdefbfbdefbfbd187befbfbd66efbfbdefbfbd6c55",
    "54efbfbd16efbfbdefbfbdefbfbdefbfbd38545defbfbd2f6a32590c1f41efbfbd737cefbfbd5cefbfbdefbfbdef",
    "bfbd16293d2756efbfbd7f55efbfbdefbfbd4b7a7d6c366defbfbd25efbfbd2befbfbdefbfbdefbfbd7f3a3e577d",
    "704106291eefbfbd3310efbfbdefbfbd28efbfbd2001efbfbd7165206074efbfbd0235efbfbdefbfbd682f7befbf",
    "bd31efbfbd60efbfbd30efbfbd31efbfbdefbfbdefbfbd0b440defbfbd2e1cefbfbd25efbfbdefbfbdefbfbd073d",
    "efbfbd68efbfbdefbfbdefbfbd43efbfbdefbfbd4befbfbd1bd7adefbfbdefbfbdefbfbd104d17efbfbdefbfbd59",
    "4eefbfbdefbfbdefbfbd2a71efbfbd324915efbfbd1c22efbfbd08efbfbd76efbfbd64efbfbd5f220fefbfbd11ef",
    "bfbdefbfbd611e3b640ac39aefbfbd38efbfbd7a2b52efbfbd2105efbfbdefbfbd140a165d5e1fefbfbdefbfbd45",
    "efbfbdefbfbd325defbfbdefbfbd66efbfbdefbfbd6c5aefbfbd4defbfbd37efbfbdefbfbdefbfbd29efbfbdefbf",
    "bd0a4d66efbfbd3247efbfbd327defbfbd77efbfbd0d0cefbfbdefbfbdefbfbd58efbfbdefbfbd3654efbfbdefbf",
    "bd3eefbfbd2e48efbfbd0455efbfbdefbfbdefbfbd4532efbfbd0245efbfbd72efbfbd2e57efbfbd3c720675efbf",
    "bd0eefbfbdefbfbd3defbfbd79efbfbdefbfbdefbfbd2a4316efbfbd5016efbfbd3dd1be2e121defbfbdefbfbdef",
    "bfbd56efbfbd1718294eefbfbd7664efbfbdefbfbd5a7f77efbfbdd6a945efbfbdefbfbdefbfbd29efbfbd395def",
    "bfbd264eefbfbd4aefbfbdefbfbd5025efbfbdefbfbd756aefbfbd1a5aefbfbdefbfbdefbfbd2d0eefbfbdefbfbd",
    "3e68efbfbd5853ce8a44efbfbdefbfbd35efbfbd2cefbfbd1534efbfbd60efbfbd4aefbfbd57efbfbdefbfbd5eef",
    "bfbd4c611fefbfbd71efbfbd4eefbfbd3d61efbfbd695fefbfbd78efbfbdefbfbd3defbfbd14efbfbd75efbfbd5e",
    "6eefbfbd0e44086d125cefbfbdefbfbd19efbfbd2eefbfbdefbfbd54efbfbd1217efbfbdefbfbdefbfbd1136efbf",
    "bdd9acefbfbdefbfbdefbfbd14de9b29efbfbdc4bb43efbfbd67efbfbd6b13d59a2b3d4eefbfbd2875efbfbddca8",
    "efbfbd4defbfbd22156458efbfbd03efbfbdefbfbdefbfbd4050efbfbdefbfbd41efbfbd46556526efbfbd236bef",
    "bfbdc4a3c69b75efbfbdd9aaefbfbdefbfbdefbfbd4848efbfbd425a74d99c044cefbfbd4fefbfbd702befbfbd5f",
    "efbfbdefbfbdefbfbdefbfbdefbfbdefbfbd6f4274582b794d5a65efbfbd2eefbfbdefbfbd172eefbfbdc5a8efbf",
    "bd2f4fefbfbd655defbfbdefbfbd6d245befbfbd4a704d2818efbfbdefbfbdefbfbd09664e78efbfbd1aefbfbdef",
    "bfbd764aefbfbd746ad2a5efbfbdefbfbd78655a6631efbfbd4644efbfbd125acf893e49efbfbdefbfbdd6a5472d",
    "efbfbdefbfbdefbfbd2646356d6aefbfbd2eefbfbd24efbfbd290befbfbd6924313defbfbdefbfbd2befbfbd6358",
    "6925efbfbd4b4858efbfbd6defbfbdefbfbdefbfbdefbfbd716f4befbfbd19efbfbdefbfbdefbfbd75efbfbdefbf",
    "bd69efbfbd18efbfbdefbfbdefbfbd39efbfbdefbfbdefbfbdefbfbd1defbfbd2aefbfbd58efbfbdefbfbd0defbf",
    "bd36efbfbd397befbfbdefbfbd7a547aefbfbdefbfbdefbfbd4e15efbfbd7cefbfbd0aefbfbd0befbfbdefbfbdef",
    "bfbd4e5f4065712e27efbfbdefbfbdefbfbdefbfbd72efbfbd6aefbfbd0d06efbfbdc7900a5c191a61efbfbdefbf",
    "bdefbfbd61efbfbd30efbfbd33efbfbd6cefbfbdefbfbdefbfbd13efbfbdec95af2942efbfbdefbfbdefbfbdefbf",
    "bd4fefbfbdefbfbdefbfbd01efbfbd59efbfbdefbfbdefbfbd63efbfbd0befbfbdefbfbd48efbfbdefbfbdefbfbd",
    "efbfbdc49a63efbfbd1eefbfbd164d1e4e06efbfbd0209efbfbd37efbfbdefbfbdefbfbd6aefbfbd5601efbfbd5e",
    "181cefbfbd385f5d2d090fefbfbd14efbfbd7719efbfbdefbfbd0e0fe7b9b5275520efbfbd3c6aefbfbd06efbfbd",
    "46ce97efbfbdefbfbdefbfbd38efbfbdc8a6efbfbdefbfbd76efbfbdefbfbdefbfbd53efbfbdefbfbd03efbfbd3c",
    "efbfbdefbfbd41efbfbdc68549efbfbd7441e2b49f2c65501667efbfbdefbfbd5fefbfbde5b0bc485f0658efbfbd",
    "efbfbdda88efbfbd58efbfbd096defbfbd30efbfbd3cefbfbd11efbfbd5f4b3cefbfbd302b4634d8a5efbfbd05ef",
    "bfbd08efbfbdefbfbdefbfbdefbfbddcaa6a09efbfbd7e7760efbfbdefbfbdefbfbd41efbfbd31efbfbdefbfbd61",
    "efbfbd3727da9aefbfbd2f1cd3bcefbfbd32efbfbd3715efbfbdefbfbdefbfbdefbfbd5d0defbfbd3e4b5eefbfbd",
    "d799efbfbd1944efbfbdefbfbd541defbfbd68efbfbd56efbfbd112cefbfbdd48c26ef8c9befbfbdefbfbd130eef",
    "bfbdefbfbdefbfbdefbfbd3b5c38efbfbdefbfbd1b432defbfbdce9eefbfbd4077efbfbdefbfbd3defbfbd694aef",
    "bfbd0befbfbdefbfbdefbfbd6aefbfbd64efbfbd485041efbfbd003befbfbd3d69efbfbdefbfbdefbfbdefbfbd13",
    "1c4843efbfbd3fefbfbdefbfbd5f7aefbfbd5defbfbd53efbfbd1267efbfbdefbfbd4516efbfbdefbfbdefbfbd7c",
    "efbfbdefbfbd07222f594fd598efbfbd52efbfbd7a161b2671d48e1cefbfbd1cefbfbdc89550451cefbfbdefbfbd",
    "0c43efbfbdefbfbd46efbfbd657e3b2d651eefbfbd28efbfbd2befbfbdc8ab5c4a715b361cefbfbd463dc5a3efbf",
    "bdefbfbd5cefbfbd314cefbfbd616a0cefbfbd63efbfbd3defbfbd79efbfbdefbfbd312c6c28efbfbd173fefbfbd",
    "4aefbfbdefbfbd45efbfbd6523efbfbdefbfbdefbfbdefbfbd6defbfbdefbfbd47704defbfbdefbfbd37d7baefbf",
    "bd635855cebb35efbfbd75efbfbd1befbfbdefbfbdefbfbd1c3edd941a6f48efbfbd6b6eefbfbddb9e5f1943efbf",
    "bdefbfbdefbfbd18efbfbd5439efbfbd0e575b0cefbfbd0eefbfbdefbfbdefbfbdefbfbd763b62d8ae75efbfbdef",
    "bfbd790c76efbfbdefbfbd2aefbfbd6d1fefbfbdefbfbd2aefbfbdefbfbd5cefbfbdefbfbd73dcb9efbfbdefbfbd",
    "efbfbdefbfbd57d5a4efbfbd35efbfbdefbfbdcdb81d6a5aefbfbdefbfbd29efbfbdefbfbd6d1801efbfbdefbfbd",
    "efbfbd753befbfbd62efbfbdefbfbdefbfbdefbfbdefbfbdefbfbd31efbfbd0fefbfbd31efbfbd6e5defbfbdefbf",
    "bd30efbfbdefbfbdefbfbdefbfbdefbfbdefbfbd65efbfbd3d23efbfbdefbfbdefbfbd0fc5b0efbfbd2acf9d7706",
    "4befbfbd796e7d04efbfbdefbfbdefbfbdefbfbd2016efbfbd55cfb4efbfbdefbfbd405b6203efbfbd41efbfbd56",
    "efbfbdefbfbdefbfbd0d5e3c4d6defbfbd46efbfbdefbfbdefbfbdefbfbd412c4a6c37377defbfbdefbfbd6aefbf",
    "bdefbfbd255cefbfbd6655efbfbdefbfbdefbfbd110cefbfbdefbfbd0d572cefbfbdefbfbdefbfbd535247efbfbd",
    "737defbfbdefbfbd174d3908efbfbdefbfbd141defbfbdefbfbdefbfbd3a48efbfbd3befbfbd16efbfbd7769efbf",
    "bd192aefbfbdefbfbdefbfbdefbfbdefbfbdefbfbdefbfbd187eefbfbd7defbfbd5e165a4befbfbd5c6ed7a9efbf",
    "bd05efbfbdefbfbd0befbfbd0aefbfbd0aefbfbd62efbfbdefbfbd5554efbfbdefbfbdefbfbdefbfbd524571efbf",
    "bd7defbfbd72efbfbdefbfbd4f47efbfbd36efbfbdefbfbd61efbfbdefbfbdefbfbdc29f0cefbfbdefbfbd62efbf",
    "bd490c7f15efbfbdefbfbd291531efbfbdefbfbd08efbfbdefbfbdefbfbdefbfbd3a05efbfbd17efbfbdefbfbdef",
    "bfbdefbfbd09efbfbd05efbfbdefbfbdefbfbdefbfbdefbfbdefbfbd2826424b70134aefbfbdefbfbd6b0befbfbd",
    "d08972efbfbdefbfbd75172a712716efbfbd20efbfbdefbfbd754aefbfbd70357eefbfbd65efbfbd05efbfbdefbf",
    "bdefbfbd5d4124efbfbd64efbfbd56251e54efbfbd52627e2556efbfbd0a5f2fefbfbd70efbfbdefbfbd42efbfbd",
    "3cefbfbd75efbfbd18efbfbdefbfbd616cefbfbdefbfbdefbfbd281fefbfbd46efbfbd0437efbfbd4f502fefbfbd",
    "efbfbd41cea13e2b1b4d591e34677971efbfbdefbfbd46efbfbdefbfbd47efbfbd793cefbfbd5c4defbfbd69d092",
    "efbfbdefbfbd1aefbfbdefbfbdefbfbdefbfbd400defbfbdefbfbdefbfbd1eefbfbd5d422aefbfbd49cc82165fc7",
    "81efbfbd587a1e15c8bfefbfbdefbfbdefbfbdefbfbdefbfbd71efbfbd617e787fefbfbdefbfbdefbfbdefbfbdef",
    "bfbdefbfbdefbfbd565befbfbdefbfbdefbfbdefbfbd3753605d3eefbfbd1a21517cefbfbdefbfbdefbfbd06efbf",
    "bd682351efbfbd49efbfbd58efbfbdefbfbd58d480efbfbdefbfbdefbfbd5160efbfbd28561356efbfbd593fefbf",
    "bdefbfbdefbfbd31efbfbdefbfbdefbfbdefbfbdefbfbdefbfbdefbfbd3fefbfbdefbfbdefbfbd18efbfbdefbfbd",
    "efbfbd5a7eefbfbd74efbfbd07efbfbd4a2cefbfbd4eefbfbdefbfbd2a520befbfbdefbfbdefbfbd5b38efbfbdca",
    "b93672593b25efbfbd38efbfbd4eefbfbd6c5331efbfbd78efbfbd790e66276defbfbd1544efbfbdefbfbd73efbf",
    "bd56efbfbd00efbfbd5aefbfbdefbfbd097eefbfbdceb16c5eefbfbd4befbfbd4defbfbd1befbfbd3eefbfbdefbf",
    "bd51efbfbd4befbfbdefbfbd79efbfbd13277a0b4412efbfbd2ed9a7cb865246efbfbdefbfbd236d275defbfbd46",
    "efbfbd3ec2b4efbfbd32efbfbd01efbfbd1cefbfbd0a0e4eefbfbdefbfbd6562efbfbdefbfbdefbfbd56efbfbd1b",
    "0aefbfbd5612efbfbdefbfbdefbfbdefbfbdefbfbd72efbfbdefbfbdefbfbd5937efbfbd1eefbfbdefbfbdefbfbd",
    "efbfbdefbfbd2c10efbfbdc290efbfbdefbfbdefbfbdefbfbd0b24efbfbdefbfbd05efbfbd3f2cefbfbdefbfbd14",
    "59efbfbd595ec687efbfbd09efbfbdefbfbdefbfbd663d28efbfbd4eefbfbd6517efbfbd20efbfbd4c0a32efbfbd",
    "4258efbfbdefbfbd2defbfbdefbfbdefbfbd2eefbfbdefbfbd0041efbfbd744bd69fefbfbd4d0defbfbd52efbfbd",
    "7e65efbfbdefbfbd18efbfbdefbfbdefbfbdefbfbdefbfbdefbfbd13efbfbdefbfbdefbfbdefbfbd6defbfbdefbf",
    "bdc6a46458efbfbdefbfbdefbfbdefbfbd64efbfbd50efbfbd02efbfbd596eefbfbd12efbfbdefbfbd3105efbfbd",
    "efbfbdefbfbdefbfbd4bc58fe38984efbfbdefbfbd342cefbfbdefbfbdefbfbd0259efbfbd14efbfbd623ed5836f",
    "391aefbfbdefbfbd63efbfbdefbfbd6defbfbd2defbfbd08efbfbd4acbb3efbfbd6c315979efbfbdefbfbdefbfbd",
    "efbfbd58d0abefbfbdefbfbdefbfbd6d3f5d20d5b6efbfbdefbfbd6aefbfbd4eefbfbdefbfbd6544560defbfbdef",
    "bfbd7cefbfbdefbfbd32efbfbdefbfbd72efbfbdefbfbdefbfbd521e29efbfbd19203f68efbfbdefbfbd12771315",
    "7befbfbd7b29efbfbdefbfbdefbfbdefbfbdefbfbdefbfbdefbfbd50efbfbdefbfbd2adc9f40efbfbdefbfbd0b4c",
    "efbfbd641601efbfbdefbfbdefbfbd594c5b4fefbfbd38efbfbd63efbfbd70efbfbd03efbfbdefbfbd1eefbfbdef",
    "bfbdefbfbd41efbfbdefbfbd7f7c426a12602910efbfbdefbfbdde92384e62efbfbd4115efbfbd461eefbfbdefbf",
    "bdefbfbdefbfbd4befbfbd20efbfbd4cefbfbdefbfbdefbfbd31efbfbdefbfbdefbfbdefbfbdefbfbdefbfbd0937",
    "59efbfbdefbfbd32565d6cefbfbdefbfbd4aefbfbd495b4cefbfbd63efbfbd25efbfbd49efbfbd1531efbfbd59ef",
    "bfbd3befbfbdefbfbdefbfbdefbfbd5921592347efbfbdd79d63efbfbd6f324befbfbdefbfbd736befbfbdefbfbd",
    "efbfbd69efbfbd0fefbfbd24cd8002efbfbdefbfbd6241efbfbd3f5420efbfbd71efbfbd27efbfbd39efbfbd133f",
    "efbfbdefbfbd71efbfbd273cefbfbdefbfbdefbfbd35efbfbdefbfbdefbfbdefbfbd3defbfbd61226c3fefbfbd52",
    "efbfbd1cefbfbd622303efbfbd67efbfbd07efbfbd2469efbfbd297aefbfbd69efbfbd3cefbfbdefbfbd0378efbf",
    "bdefbfbd0eefbfbd7aefbfbdefbfbd57efbfbdefbfbdefbfbd62efbfbd2cefbfbdefbfbdefbfbdefbfbd45efbfbd",
    "7defbfbdefbfbd166b6d4aefbfbd4befbfbd4d344d3aefbfbdefbfbdefbfbd5befbfbd16efbfbd130cefbfbdefbf",
    "bd782511efbfbd5206efbfbddc89efbfbdefbfbdefbfbd36efbfbdefbfbdefbfbdefbfbdefbfbdefbfbd7e6b18ef",
    "bfbdefbfbd6d49efbfbd0defbfbd575534efbfbdefbfbd55efbfbdefbfbdefbfbd67efbfbd1d0f2f0f2aefbfbdda",
    "950307efbfbd62efbfbd7f10efbfbdefbfbdefbfbde8b1b8efbfbdefbfbdefbfbd64245853efbfbdefbfbdefbfbd",
    "41efbfbd6a4d53efbfbd31efbfbd78c38eefbfbdefbfbdefbfbd6c2eefbfbdefbfbdefbfbdefbfbd43efbfbdefbf",
    "bd4905efbfbd1c75efbfbdceb1efbfbde9a5870eefbfbdefbfbd03efbfbdc281efbfbd3f6befbfbd4eefbfbd0866",
    "efbfbdefbfbd7979efbfbdefbfbd3c5c0d3dd580efbfbdd08bd799606f10efbfbd6f11796fefbfbdefbfbdefbfbd",
    "52efbfbd10efbfbdefbfbd716a18625cefbfbd73efbfbd09cb971e68efbfbdefbfbd553eefbfbdefbfbdefbfbd56",
    "efbfbdefbfbdefbfbdefbfbdefbfbdefbfbdefbfbd3befbfbdefbfbd312427efbfbd4fefbfbdefbfbd2512efbfbd",
    "79efbfbdefbfbd045d312a4fefbfbdefbfbd0eefbfbd33efbfbdefbfbd2c49efbfbdccb278663e6b65efbfbd0c26",
    "325306efbfbdefbfbdefbfbd60efbfbd2cefbfbdefbfbd4259efbfbdefbfbd53075befbfbd71efbfbd3d7e0fefbf",
    "bd1fefbfbd6749efbfbdefbfbd6327efbfbdefbfbdefbfbd2875efbfbdefbfbdefbfbd1413efbfbdefbfbd657c01",
    "6cefbfbd3045efbfbdefbfbd26665eefbfbdefbfbdefbfbdefbfbd3b097bdfa4efbfbdefbfbdefbfbd5befbfbd50",
    "efbfbdefbfbd4bcfa0efbfbdefbfbdefbfbdefbfbdefbfbdefbfbdefbfbdefbfbd22efbfbdefbfbd282b2befbfbd",
    "2defbfbdefbfbdefbfbd1a1cefbfbdefbfbdefbfbd586d0defbfbdefbfbdefbfbdefbfbd71db87efbfbdefbfbdd8",
    "9defbfbd705cefbfbdefbfbdefbfbd133709efbfbdefbfbd21efbfbd58efbfbdefbfbd2e61efbfbd3d1eefbfbd43",
    "efbfbdefbfbdefbfbd767053efbfbddf80efbfbd2defbfbd6720efbfbd3cefbfbdefbfbd6eefbfbdefbfbdefbfbd",
    "efbfbdefbfbd32efbfbdefbfbd0cefbfbdefbfbd13efbfbdefbfbd740eefbfbd3f504b0708efbfbd46efbfbd7f41",
    "100000781e0000504b01021400140008080800efbfbd53535d000000000200000000000000090004000000000000",
    "0000000000000000004d4554412d494e462fefbfbdefbfbd0000504b01021400140008080800efbfbd53535defbf",
    "bdefbfbd1f127a000000efbfbd00000014000000000000000000000000003d0000004d4554412d494e462f4d414e",
    "49464553542e4d46504b01020a000a0000080000efbfbd53535d0000000000000000000000000400000000000000",
    "000000000000efbfbd0000006f72672f504b01020a000a0000080000efbfbd53535d000000000000000000000000",
    "0b000000000000000000000000001b0100006f72672f677261646c652f504b01020a000a0000080000efbfbd5353",
    "5d0000000000000000000000001300000000000000000000000000440100006f72672f677261646c652f77726170",
    "7065722f504b01021400140008080800efbfbd53535defbfbd46efbfbd7f41100000781e00002a00000000000000",
    "000000000000750100006f72672f677261646c652f777261707065722f477261646c65577261707065724d61696e",
    "2e636c617373504b05060000000006000600efbfbd0100000e1200000000"]

end TriggerPlan.Resources
